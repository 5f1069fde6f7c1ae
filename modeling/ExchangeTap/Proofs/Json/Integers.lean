import ExchangeTap.Proofs.Json.Whole

namespace ExchangeTap.Json

def IsWord (n : Int) : Prop :=
  -(2 ^ 63) ≤ n ∧ n < 2 ^ 64

namespace Numeral

variable {bound significand : Nat} {n : Int} {digits : List Char}

private theorem absorb_lt (small : significand < bound) : (absorb bound significand digits).1 < bound := by
  induction digits generalizing significand with
  | nil => exact small
  | cons digit rest ih =>
      simp only [absorb]
      split
      next fits => exact ih fits
      next => exact small

private theorem float_ne_integer {negative : Bool} {exponent : Int} :
    float negative significand exponent ≠ some (.integer n) := by
  unfold float signed
  cases scaled (Binary64.ofNat significand) exponent <;> simp

private theorem isWord_of_integer {negative : Bool} (small : significand < 2 ^ 64)
    (same : integer negative significand = .integer n) : IsWord n := by
  unfold integer at same
  split at same
  next =>
    cases same
    exact ⟨by omega, by omega⟩
  next =>
    split at same
    next within =>
      cases same
      exact ⟨by omega, by omega⟩
    next => cases same

private theorem isWord_of_value {numeral : Numeral} (read : numeral.value = some (.integer n)) :
    IsWord n := by
  have head : (absorb (2 ^ 64) 0 numeral.whole).1 < 2 ^ 64 := absorb_lt (by decide)
  have small : (absorb (2 ^ 64) (absorb (2 ^ 64) 0 numeral.whole).1 numeral.fraction).1 < 2 ^ 64 :=
    absorb_lt head
  simp only [value] at read
  split at read
  next =>
    split at read
    next => exact isWord_of_integer small (Option.some.inj read)
    next => exact absurd read float_ne_integer
  next =>
    split at read
    next => exact absurd read float_ne_integer
    next => split at read <;> cases read

end Numeral

def Token.integers : Token → List Int
  | .number (some (.integer n)) => [n]
  | _ => []

def Token.Sized (token : Token) : Prop :=
  ∀ n ∈ token.integers, IsWord n

private theorem Token.sized_of_no_integer {token : Token} (none : token.integers = []) : token.Sized := by
  intro n here
  rw [none] at here
  cases here

private theorem integers_scanText (s : TextState) (text : List Char) : (scanText s text).token.integers =
    [] := by
  fun_induction scanText s text <;> first | rfl | assumption

private theorem integers_scanWord (word : List Char) {token : Token} (none : token.integers = [])
    (cs : List Char) :
    (scanWord word token cs).token.integers = [] := by
  unfold scanWord
  split
  next => exact none
  next => split <;> rfl

private theorem sized_number {numeral : Numeral} : (Token.number numeral.value).Sized := by
  intro n here
  cases read : numeral.value with
  | none =>
      rw [read] at here
      cases here
  | some number =>
      cases number with
      | float x =>
          rw [read] at here
          cases here
      | integer m =>
          rw [read] at here
          cases List.mem_singleton.mp here
          exact Numeral.isWord_of_value read

private theorem sized_scan (c : Char) (rest : List Char) : (scan c rest).token.Sized := by
  have either : ∀ {p : Prop} [Decidable p] {one other : Lexeme}, one.token.Sized → other.token.Sized →
      (if p then one else other).token.Sized := by
    intro p _ one other first second
    split
    next => exact first
    next => exact second
  have mark : ∀ {token : Token} {length : Nat}, token.integers = [] → (Lexeme.mk token length).token.Sized :=
    fun none => Token.sized_of_no_integer none
  have word : ∀ (word : List Char) {token : Token}, token.integers = [] →
      (scanWord word token (c :: rest)).token.Sized :=
    fun word _ none => Token.sized_of_no_integer (integers_scanWord word none _)
  unfold scan
  iterate 6 refine either (mark rfl) ?_
  refine either (Token.sized_of_no_integer (integers_scanText _ rest)) ?_
  iterate 3 refine either (word _ rfl) ?_
  refine either ?_ (mark rfl)
  split
  next => exact sized_number
  next => exact mark rfl

private theorem sized_tokensAfter (skip : Nat) (text : List Char) :
    ∀ token ∈ tokensAfter skip text, token.Sized := by
  induction text generalizing skip with
  | nil => nofun
  | cons c rest ih =>
      cases skip with
      | succ more => exact ih more
      | zero =>
          cases space : isSpace c with
          | true => simpa only [tokensAfter, if_pos space] using ih 0
          | false =>
              rw [tokensAfter_of_solid space]
              split
              next => exact List.forall_mem_singleton.mpr (sized_scan c rest)
              next => exact List.forall_mem_cons.mpr ⟨sized_scan c rest, ih _⟩

namespace Tree

mutual

def integers : Tree → List Int
  | .number (some (.integer n)) => [n]
  | .list items _ => itemIntegers items
  | .object members _ => memberIntegers members
  | .null | .boolean _ | .number _ | .text _ | .broken _ => []
termination_by structural tree => tree

def itemIntegers : List Tree → List Int
  | [] => []
  | item :: rest => item.integers ++ itemIntegers rest
termination_by structural items => items

def memberIntegers : List (Option String × Tree) → List Int
  | [] => []
  | (_, value) :: rest => value.integers ++ memberIntegers rest
termination_by structural members => members

end

variable {n : Int} {tree : Tree} {ending : Option Defect} {outer : List Frame} {token : Token}

theorem itemIntegers_eq (items : List Tree) : itemIntegers items = items.flatMap integers := by
  induction items with
  | nil => rfl
  | cons item rest ih => rw [itemIntegers, ih, List.flatMap_cons]

theorem memberIntegers_eq (members : List (Option String × Tree)) :
    memberIntegers members = members.flatMap (·.2.integers) := by
  induction members with
  | nil => rfl
  | cons member rest ih => rw [memberIntegers, ih, List.flatMap_cons]

def Frame.integers : Frame → List Int
  | .list done => itemIntegers done
  | .object done _ => memberIntegers done

def State.integers : State → List Int
  | .value outer | .firstItem outer => outer.flatMap Frame.integers
  | .key _ done outer | .colon done _ outer => memberIntegers done ++ outer.flatMap Frame.integers
  | .after tree outer => tree.integers ++ outer.flatMap Frame.integers

def Progress.integers : Progress → List Int
  | .next state => state.integers
  | .stop tree => tree.integers

private theorem mem_integers_fill {frame : Frame} :
    n ∈ (frame.fill tree ending).integers ↔ n ∈ tree.integers ++ frame.integers := by
  cases frame with
  | list done => simp [Frame.fill, integers, Frame.integers, itemIntegers_eq, or_comm]
  | object done key => simp [Frame.fill, integers, Frame.integers, memberIntegers_eq, or_comm]

private theorem mem_integers_breakOff :
    n ∈ (breakOff tree outer).integers ↔ n ∈ tree.integers ++ outer.flatMap Frame.integers := by
  induction outer generalizing tree with
  | nil => simp [breakOff]
  | cons frame outer ih =>
      refine ih.trans ?_
      simp only [List.mem_append, mem_integers_fill, List.flatMap_cons, or_assoc]

private theorem mem_integers_readValue (here : n ∈ (readValue outer token).integers) :
    n ∈ outer.flatMap Frame.integers ++ token.integers := by
  cases token with
  | number value =>
      cases value with
      | none =>
          simpa [readValue, Progress.integers, State.integers, integers, Token.integers] using here
      | some number =>
          cases number <;>
            simpa [readValue, Progress.integers, State.integers, integers, Token.integers, or_comm] using here
  | _ =>
      simpa [readValue, Progress.integers, State.integers, integers, Token.integers, memberIntegers,
        mem_integers_breakOff] using here

private theorem mem_integers_readKey {first : Bool} {done : List (Option String × Tree)}
    (here : n ∈ (readKey first done outer token).integers) :
    n ∈ memberIntegers done ++ outer.flatMap Frame.integers := by
  have stops : ∀ defect, n ∈ (breakOff (.object done.reverse (some defect)) outer).integers →
      n ∈ memberIntegers done ++ outer.flatMap Frame.integers := by
    intro defect here
    simpa [mem_integers_breakOff, integers, memberIntegers_eq] using here
  cases token with
  | text => exact here
  | closeObject =>
      cases first with
      | true => exact List.mem_append_right _ here
      | false => exact stops _ here
  | broken quoted defect => cases quoted <;> exact stops _ here
  | _ => exact stops _ here

private theorem mem_integers_readAfter {frame : Frame}
    (here : n ∈ (readAfter tree frame outer token).integers) :
    n ∈ tree.integers ++ (frame :: outer).flatMap Frame.integers := by
  have stops : ∀ defect, n ∈ (breakOff (frame.fill tree (some defect)) outer).integers →
      n ∈ tree.integers ++ (frame :: outer).flatMap Frame.integers := by
    intro defect here
    simpa [mem_integers_breakOff, mem_integers_fill, or_assoc] using here
  have closes : n ∈ (State.after (frame.fill tree none) outer).integers →
      n ∈ tree.integers ++ (frame :: outer).flatMap Frame.integers := by
    intro here
    simpa [State.integers, mem_integers_fill, or_assoc] using here
  cases frame with
  | list done =>
      cases token with
      | closeList => exact closes here
      | comma =>
          simpa [readAfter, Progress.integers, State.integers, Frame.integers, itemIntegers,
            or_assoc] using here
      | _ => exact stops _ here
  | object done key =>
      cases token with
      | closeObject => exact closes here
      | comma =>
          simpa [readAfter, Progress.integers, State.integers, Frame.integers, memberIntegers,
            or_assoc] using here
      | _ => exact stops _ here

private theorem mem_integers_take {state : State} (here : n ∈ (state.take token).integers) :
    n ∈ state.integers ++ token.integers := by
  cases state with
  | value outer => exact mem_integers_readValue here
  | firstItem outer =>
      have item : n ∈ (readValue (.list [] :: outer) token).integers →
          n ∈ (State.firstItem outer).integers ++ token.integers := fun here => by
        simpa [State.integers, Frame.integers, itemIntegers] using mem_integers_readValue here
      cases token with
      | closeList => exact List.mem_append_left _ here
      | _ => exact item here
  | key first done outer => exact List.mem_append_left _ (mem_integers_readKey here)
  | colon done key outer =>
      have stops : n ∈ (breakOff (.broken .malformed) (.object done key :: outer)).integers →
          n ∈ (State.colon done key outer).integers ++ token.integers := fun here =>
        List.mem_append_left _ (mem_integers_breakOff.mp here)
      cases token with
      | colon => exact List.mem_append_left _ here
      | _ => exact stops here
  | after tree outer =>
      cases outer with
      | nil => exact List.mem_append_left _ (List.mem_append_left _ here)
      | cons frame outer => exact List.mem_append_left _ (mem_integers_readAfter here)

private theorem mem_integers_cut {state : State} (here : n ∈ state.cut.integers) : n ∈ state.integers := by
  cases state with
  | value outer => exact mem_integers_breakOff.mp here
  | firstItem outer => exact mem_integers_breakOff.mp here
  | key first done outer =>
      simpa [State.cut, State.integers, mem_integers_breakOff, integers, memberIntegers_eq] using here
  | colon done key outer => exact mem_integers_breakOff.mp here
  | after tree outer =>
      cases outer with
      | nil => exact List.mem_append_left _ here
      | cons frame outer =>
          simpa [State.cut, State.integers, mem_integers_breakOff, mem_integers_fill, or_assoc] using here

private theorem mem_integers_build {tokens : List Token} {state : State}
    (here : n ∈ (build state tokens).1.integers) : n ∈ state.integers ++ tokens.flatMap Token.integers := by
  induction tokens generalizing state with
  | nil => exact List.mem_append_left _ (mem_integers_cut here)
  | cons token rest ih =>
      by_cases finished : ∃ tree, state = .after tree []
      · obtain ⟨tree, rfl⟩ := finished
        exact List.mem_append_left _ (List.mem_append_left _ here)
      · rw [build_cons fun tree same => finished ⟨tree, same⟩] at here
        have taken : n ∈ (state.take token).integers → n ∈ state.integers ++ token.integers :=
          mem_integers_take
        rw [List.flatMap_cons, ← List.append_assoc]
        generalize state.take token = progress at here taken
        cases progress with
        | next next =>
            rcases List.mem_append.mp (ih here) with before | later
            · exact List.mem_append_left _ (taken before)
            · exact List.mem_append_right _ later
        | stop tree => exact List.mem_append_left _ (taken here)

def Sized (tree : Tree) : Prop :=
  ∀ n ∈ tree.integers, IsWord n

theorem sized_ofText (text : List Char) : (ofText text).1.Sized := by
  intro n here
  have spelled : n ∈ (State.value []).integers ++ (tokens text).flatMap Token.integers :=
    mem_integers_build here
  obtain ⟨token, among, here⟩ := List.mem_flatMap.mp spelled
  exact sized_tokensAfter 0 text token among n here

end Tree

end ExchangeTap.Json
