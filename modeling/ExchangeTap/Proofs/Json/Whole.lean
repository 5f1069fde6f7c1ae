import ExchangeTap.Proofs.Json.Accepting
import ExchangeTap.Proofs.Json.Trailing

/-! Nothing is read over a defect: what a strict codec reads a value from is a whole tree, and a
text whose tree is whole does not break off inside of a lexeme. -/

namespace ExchangeTap.Json

namespace Tree

mutual

/-- There is no defect anywhere in the tree. -/
def isWhole : Tree → Bool
  | .broken _ => false
  | .list items ending => itemsWhole items && ending.isNone
  | .object members ending => membersWhole members && ending.isNone
  | .null | .boolean _ | .number _ | .text _ => true
termination_by structural tree => tree

def itemsWhole : List Tree → Bool
  | [] => true
  | item :: rest => item.isWhole && itemsWhole rest
termination_by structural items => items

def membersWhole : List (Option String × Tree) → Bool
  | [] => true
  | (_, value) :: rest => value.isWhole && membersWhole rest
termination_by structural members => members

end

variable {α β : Type} {tree : Tree} {ending : Option Defect} {outer : List Frame}

private theorem isWhole_list_iff {items : List Tree} :
    (list items ending).isWhole = true ↔ itemsWhole items = true ∧ ending.isNone = true := by
  rw [isWhole, Bool.and_eq_true]

private theorem isWhole_object_iff {members : List (Option String × Tree)} :
    (object members ending).isWhole = true ↔ membersWhole members = true ∧ ending.isNone = true := by
  rw [isWhole, Bool.and_eq_true]

@[simp] private theorem itemsWhole_append (first rest : List Tree) :
    itemsWhole (first ++ rest) = (itemsWhole first && itemsWhole rest) := by
  induction first with
  | nil => rfl
  | cons item first ih => simp only [List.cons_append, itemsWhole, ih, Bool.and_assoc]

@[simp] private theorem membersWhole_append (first rest : List (Option String × Tree)) :
    membersWhole (first ++ rest) = (membersWhole first && membersWhole rest) := by
  induction first with
  | nil => rfl
  | cons member first ih => simp only [List.cons_append, membersWhole, ih, Bool.and_assoc]

private theorem isWhole_fill (frame : Frame) (whole : (frame.fill tree ending).isWhole = true) :
    tree.isWhole = true ∧ ending.isNone = true := by
  cases frame with
  | list done =>
      simp only [Frame.fill, isWhole, itemsWhole_append, itemsWhole, Bool.and_eq_true] at whole
      exact ⟨whole.1.2.1, whole.2⟩
  | object done key =>
      simp only [Frame.fill, isWhole, membersWhole_append, membersWhole, Bool.and_eq_true] at whole
      exact ⟨whole.1.2.1, whole.2⟩

private theorem isWhole_breakOff (whole : (breakOff tree outer).isWhole = true) : tree.isWhole = true := by
  induction outer generalizing tree with
  | nil => exact whole
  | cons frame outer ih => exact (isWhole_fill frame (ih whole)).1

/-- A document is read on behind a sound token, or it stops at a defect. -/
inductive Passes (token : Token) : Progress → Prop where
  | next (state : State) (sound : token.isBroken = false) : Passes token (.next state)
  | stop (tree : Tree) (defective : tree.isWhole ≠ true) : Passes token (.stop tree)

variable {token : Token}

private theorem passes_breakOff (defective : tree.isWhole ≠ true) (outer : List Frame) :
    Passes token (.stop (breakOff tree outer)) :=
  .stop _ fun whole => defective (isWhole_breakOff whole)

private theorem passes_readValue (outer : List Frame) (token : Token) :
    Passes token (readValue outer token) := by
  cases token with
  | broken | closeList | closeObject | comma | colon => exact passes_breakOff (by simp [isWhole]) outer
  | _ => exact .next _ rfl

private theorem passes_readKey (first : Bool) (done : List (Option String × Tree)) (outer : List Frame)
    (token : Token) : Passes token (readKey first done outer token) := by
  have stops : ∀ defect, Passes token (.stop (breakOff (.object done.reverse (some defect)) outer)) :=
    fun defect => passes_breakOff (by simp [isWhole]) outer
  cases token with
  | text => exact .next _ rfl
  | closeObject =>
      cases first with
      | true => exact .next _ rfl
      | false => exact stops .malformed
  | broken quoted defect => cases quoted <;> exact stops _
  | _ => exact stops .malformed

private theorem passes_readAfter (tree : Tree) (frame : Frame) (outer : List Frame) (token : Token) :
    Passes token (readAfter tree frame outer token) := by
  have stops : ∀ defect, Passes token (.stop (breakOff (frame.fill tree (some defect)) outer)) :=
    fun defect => passes_breakOff (fun whole => by cases (isWhole_fill frame whole).2) outer
  cases frame <;> cases token <;> first | exact .next _ rfl | exact stops .malformed

def State.take (token : Token) : State → Progress
  | .value outer => readValue outer token
  | .firstItem outer =>
    match token with
    | .closeList => .next (.after (.list [] none) outer)
    | _ => readValue (.list [] :: outer) token
  | .key first done outer => readKey first done outer token
  | .colon done name outer =>
    match token with
    | .colon => .next (.value (.object done name :: outer))
    | _ => .stop (breakOff (.broken .malformed) (.object done name :: outer))
  | .after tree [] => .stop tree
  | .after tree (frame :: outer) => readAfter tree frame outer token

theorem build_cons {state : State} (unfinished : ∀ tree, state ≠ .after tree []) (token : Token)
    (rest : List Token) :
    build state (token :: rest) =
      match state.take token with
      | .next state => build state rest
      | .stop tree => (tree, rest) := by
  cases state with
  | value outer => simp only [build, State.take]; cases readValue outer token <;> rfl
  | firstItem outer => cases token <;> rfl
  | key first done outer => simp only [build, State.take]; cases readKey first done outer token <;> rfl
  | colon done key outer => cases token <;> rfl
  | after tree outer =>
      cases outer with
      | nil => exact absurd rfl (unfinished tree)
      | cons frame outer =>
          simp only [build, State.take]
          cases readAfter tree frame outer token <;> rfl

private theorem passes_take {state : State} (unfinished : ∀ tree, state ≠ .after tree []) (token : Token) :
    Passes token (state.take token) := by
  cases state with
  | value outer => exact passes_readValue outer token
  | firstItem outer =>
      have passes := passes_readValue (.list [] :: outer) token
      cases token with
      | closeList => exact .next _ rfl
      | _ => exact passes
  | key first done outer => exact passes_readKey first done outer token
  | colon done key outer =>
      cases token with
      | colon => exact .next _ rfl
      | _ => exact passes_breakOff (by simp [isWhole]) _
  | after tree outer =>
      cases outer with
      | nil => exact absurd rfl (unfinished tree)
      | cons frame outer => exact passes_readAfter tree frame outer token

private theorem sound_of_build {tokens : List Token} {state : State}
    (built : build state tokens = (tree, [])) (whole : tree.isWhole = true) :
    tokens.any Token.isBroken = false := by
  induction tokens generalizing state with
  | nil => rfl
  | cons token rest ih =>
      -- A finished tree would leave the token over.
      have unfinished : ∀ tree, state ≠ .after tree [] := by
        rintro tree rfl
        cases built
      have passes := passes_take unfinished token
      rw [build_cons unfinished] at built
      generalize state.take token = progress at passes built
      cases passes with
      | next state sound =>
          rw [List.any_cons, sound, ih built]
          rfl
      | stop inner defective =>
          cases built
          exact absurd whole defective

private theorem isNone_of_closed {make : Unit → α} {result : α}
    (read : (closed ending).map make = .ok result) : ending.isNone = true :=
  Option.isNone_iff_eq_none.mpr (closed_map_eq_ok_iff.mp read).1

mutual

private theorem isWhole_of_skip : ∀ tree : Tree, tree.skip = .ok () → tree.isWhole = true
  | .broken defect, skipped => nomatch skipped
  | .list items ending, skipped => by
      rw [skip] at skipped
      exact isWhole_list_iff.mpr (isWhole_of_skipItems items ending skipped)
  | .object members ending, skipped => by
      rw [skip] at skipped
      exact isWhole_object_iff.mpr (isWhole_of_skipMembers members ending skipped)
  | .null, _ | .boolean _, _ | .number _, _ | .text _, _ => rfl

private theorem isWhole_of_skipItems : ∀ (items : List Tree) (ending : Option Defect),
    skipItems items ending = .ok () → itemsWhole items = true ∧ ending.isNone = true
  | [], none, _ => ⟨rfl, rfl⟩
  | [], some defect, skipped => nomatch skipped
  | item :: rest, ending, skipped => by
      rw [skipItems] at skipped
      split at skipped
      next => cases skipped
      next first =>
        obtain ⟨inside, closed⟩ := isWhole_of_skipItems rest ending skipped
        rw [itemsWhole, isWhole_of_skip item first, inside]
        exact ⟨rfl, closed⟩

private theorem isWhole_of_skipMembers : ∀ (members : List (Option String × Tree)) (ending : Option Defect),
    skipMembers members ending = .ok () → membersWhole members = true ∧ ending.isNone = true
  | [], none, _ => ⟨rfl, rfl⟩
  | [], some defect, skipped => nomatch skipped
  | (_, value) :: rest, ending, skipped => by
      rw [skipMembers] at skipped
      split at skipped
      next => cases skipped
      next first =>
        obtain ⟨inside, closed⟩ := isWhole_of_skipMembers rest ending skipped
        rw [membersWhole, isWhole_of_skip value first, inside]
        exact ⟨rfl, closed⟩

end

mutual

private theorem isWhole_of_toJson : ∀ (tree : Tree) (room : Nat) {value : Json},
    tree.toJson room = .ok value → tree.isWhole = true
  | .broken _, _, _, read | .list _ _, 0, _, read | .object _ _, 0, _, read => nomatch read
  | .list items ending, room + 1, _, read => by
      obtain ⟨values, read, -⟩ := map_eq_ok_iff.mp read
      exact isWhole_list_iff.mpr (isWhole_of_itemsToJson items room ending read)
  | .object members ending, room + 1, _, read => by
      obtain ⟨values, read, -⟩ := map_eq_ok_iff.mp read
      exact isWhole_object_iff.mpr (isWhole_of_membersToJson members room [] ending read)
  | .null, _, _, _ | .boolean _, _, _, _ | .number _, _, _, _ | .text _, _, _, _ => rfl

private theorem isWhole_of_itemsToJson :
    ∀ (items : List Tree) (room : Nat) (ending : Option Defect)
      {values : List Json}, itemsToJson room items ending = .ok values →
      itemsWhole items = true ∧ ending.isNone = true
  | [], _, ending, _, read => ⟨rfl, isNone_of_closed read⟩
  | item :: rest, room, ending, _, read => by
      rw [itemsToJson] at read
      split at read
      next => cases read
      next first =>
        obtain ⟨values, read, -⟩ := map_eq_ok_iff.mp read
        obtain ⟨inside, closed⟩ := isWhole_of_itemsToJson rest room ending read
        rw [itemsWhole, isWhole_of_toJson item room first, inside]
        exact ⟨rfl, closed⟩

private theorem isWhole_of_membersToJson :
    ∀ (members : List (Option String × Tree)) (room : Nat)
      (sorted : List (String × Json)) (ending : Option Defect) {values : List (String × Json)},
    membersToJson room sorted members ending = .ok values →
      membersWhole members = true ∧ ending.isNone = true
  | [], _, _, ending, _, read => ⟨rfl, isNone_of_closed read⟩
  | (key, tree) :: rest, room, _, ending, _, read => by
      obtain ⟨name, value, -, first, later⟩ := membersToJson_cons_eq_ok_iff.mp read
      obtain ⟨inside, closed⟩ := isWhole_of_membersToJson rest room _ ending later
      rw [membersWhole, isWhole_of_toJson tree room first, inside]
      exact ⟨rfl, closed⟩

end

end Tree

variable {α β σ : Type}

namespace Codec

/-- Values are only read from whole trees. -/
def Strict (c : Codec α) : Prop :=
  ∀ (room : Nat) (tree : Tree) (value : α), c.read room tree = .ok value → tree.isWhole = true

variable {c : Codec α}

theorem strict_text : text.Strict := by
  intro room tree value read
  cases tree with
  | text => rfl
  | _ => cases read

theorem strict_boolean : boolean.Strict := by
  intro room tree value read
  cases tree with
  | boolean => rfl
  | _ => cases read

theorem strict_natural (bound : Nat) : (natural bound).Strict := by
  intro room tree value read
  cases tree with
  | number => rfl
  | _ => cases read

theorem strict_spelled (parse : String → Option α) (spell : α → String) :
    (spelled parse spell).Strict := by
  intro room tree value read
  simp only [spelled] at read
  split at read
  next => cases read
  next spelled => exact strict_text _ _ _ spelled

theorem Strict.optional (strict : c.Strict) : c.optional.Strict := by
  intro room tree value read
  cases tree with
  | null => rfl
  | _ =>
      obtain ⟨inner, read, -⟩ := map_eq_ok_iff.mp read
      exact strict _ _ _ read

theorem strict_members : members.Strict := by
  intro room tree value read
  cases tree with
  | object entries ending =>
      cases room with
      | zero => cases read
      | succ room =>
          exact Tree.isWhole_object_iff.mpr (Tree.isWhole_of_membersToJson entries room [] ending read)
  | _ => cases room <;> cases read

theorem Strict.convert (strict : c.Strict) (make : α → β) (parts : β → α) :
    (c.convert make parts).Strict := by
  intro room tree value read
  obtain ⟨inner, read, -⟩ := map_eq_ok_iff.mp read
  exact strict _ _ _ read

end Codec

namespace Fields

def Strict : {α σ : Type} → Fields α σ → Prop
  | _, _, .done => True
  | _, _, .field _ codec _ rest => codec.Strict ∧ rest.Strict

private theorem isWhole_of_put {name : String} {room : Nat} {tree : Tree} :
    ∀ {α σ : Type} (fields : Fields α σ) {slots filled : σ}, fields.Strict →
      fields.put name room tree slots = some (.ok filled) → tree.isWhole = true
  | _, _, .done, _, _, _, put => nomatch put
  | _, _, .field own codec presence rest, (slot, more), _, strict, put => by
      rcases put_field_eq_ok_iff.mp put with ⟨-, -, value, read, -⟩ | ⟨-, others, later, -⟩
      · exact strict.1 _ _ _ read
      · exact isWhole_of_put rest strict.2 later

private theorem whole_of_readMembers (fields : Fields α σ) (strict : fields.Strict) {room : Nat}
    {ending : Option Defect} {members : List (Option String × Tree)} {slots filled : σ}
    (read : fields.readMembers room ending slots members = .ok filled) :
    Tree.membersWhole members = true ∧ ending.isNone = true := by
  induction members generalizing slots with
  | nil => exact ⟨rfl, Tree.isNone_of_closed read⟩
  | cons member rest ih =>
      obtain ⟨key, tree⟩ := member
      obtain ⟨name, -, ⟨next, put, later⟩ | ⟨-, skipped, later⟩⟩ := readMembers_cons_eq_ok_iff.mp read
      · obtain ⟨inside, closed⟩ := ih later
        rw [Tree.membersWhole, isWhole_of_put fields strict put, inside]
        exact ⟨rfl, closed⟩
      · obtain ⟨inside, closed⟩ := ih later
        rw [Tree.membersWhole, Tree.isWhole_of_skip tree skipped, inside]
        exact ⟨rfl, closed⟩

private theorem whole_of_readPositions {room : Nat} {ending : Option Defect} :
    ∀ {α σ : Type} (fields : Fields α σ) (items : List Tree) {value : α}, fields.Strict →
      fields.readPositions room ending items = .ok value →
        Tree.itemsWhole items = true ∧ ending.isNone = true
  | _, _, .done, [], _, _, read => by
      cases ending with
      | none => exact ⟨rfl, rfl⟩
      | some => cases read
  | _, _, .done, _ :: _, _, _, read => nomatch read
  | _, _, .field _ codec presence rest, item :: items, _, strict, read => by
      obtain ⟨value, others, first, later, -⟩ := readPositions_cons_eq_ok_iff.mp read
      obtain ⟨inside, closed⟩ := whole_of_readPositions rest items strict.2 later
      rw [Tree.itemsWhole, strict.1 _ _ _ first, inside]
      exact ⟨rfl, closed⟩
  | _, _, .field _ codec presence rest, [], _, _, read =>
      ⟨rfl, Option.isNone_iff_eq_none.mpr (readPositions_nil_eq_ok_iff.mp read).1⟩

theorem Strict.codec {fields : Fields α σ} (strict : fields.Strict) : fields.codec.Strict := by
  intro room tree value read
  cases tree with
  | object members ending =>
      cases room with
      | zero => cases read
      | succ room =>
          obtain ⟨slots, filled, -⟩ := read_object_eq_ok_iff.mp read
          exact Tree.isWhole_object_iff.mpr (fields.whole_of_readMembers strict filled)
  | list items ending =>
      cases room with
      | zero => cases read
      | succ room =>
          exact Tree.isWhole_list_iff.mpr (fields.whole_of_readPositions items strict read)
  | _ => cases room <;> cases read

end Fields

namespace Codec

variable {c : Codec α} {room : Nat} {text : List Char} {value : α}

theorem Strict.sound (strict : c.Strict) (read : c.decodeChars room text = .ok value) :
    (tokens text).any Token.isBroken = false := by
  obtain ⟨inner, alone⟩ := read_of_decodeChars read
  cases built : Tree.build (.value []) (tokens text) with
  | mk tree rest =>
      simp only [Tree.ofText, built] at inner alone
      cases rest with
      | nil => exact Tree.sound_of_build built (strict _ _ _ inner)
      | cons => cases alone

theorem Strict.decodeChars_return (strict : c.Strict) :
    c.decodeChars room (text ++ ['\r']) = .ok value ↔ c.decodeChars room text = .ok value := by
  rcases tokensAfter_return 0 text with same | ⟨broken, still⟩
  · have alike : tokens (text ++ ['\r']) = tokens text := same
    rw [decodeChars, decodeChars, Tree.ofText, Tree.ofText, alike]
  · refine ⟨fun read => ?_, fun read => ?_⟩
    · cases still.symm.trans (strict.sound read)
    · cases broken.symm.trans (strict.sound read)

end Codec

end ExchangeTap.Json
