import ExchangeTap.Proofs.Json.Indented
import ExchangeTap.Proofs.Json.Reading
import ExchangeTap.Proofs.Text.Utf8

/-! `Codec.Reads` is stated for single values, since some values have no JSON of their own;
`Fields.Carry.record` passes it on from the fields of a record to the record. -/

namespace ExchangeTap.Json

variable {α β σ : Type}

namespace Codec

/-- What is written for `value` is read as `result`, from its text too and wherever there is room for its
nesting. -/
structure Reads (c : Codec α) (value result : α) : Prop where
  exact : Exact (c.write value).nodes
  tree : ∀ room, (c.write value).depth ≤ room → c.read room (c.write value).tree = .ok result

variable {c : Codec α} {value result : α}

theorem reads_text (value : String) : text.Reads value value :=
  ⟨exact_of_alone rfl fun _ => nofun, fun _ _ => rfl⟩

theorem reads_boolean (value : Bool) : boolean.Reads value value :=
  ⟨exact_of_alone rfl fun _ => nofun, fun _ _ => rfl⟩

theorem reads_natural {bound n : Nat} (small : n < bound) (words : bound ≤ 2 ^ 64) :
    (natural bound).Reads n n where
  exact := ⟨fun m here => by cases List.mem_singleton.mp here; omega,
    fun x here => nomatch List.mem_singleton.mp here⟩
  tree room _ := if_pos ⟨Int.natCast_nonneg n, Int.ofNat_lt.mpr small⟩

theorem reads_spelled {parse : String → Option α} {spell : α → String}
    (read : parse (spell value) = some result) : (spelled parse spell).Reads value result where
  exact := exact_of_alone rfl fun _ => nofun
  tree room _ := by simp [spelled, text, Json.tree, read]

theorem Reads.some (reads : c.Reads value result) (present : c.write value ≠ .null) :
    (optional c).Reads (some value) (some result) where
  exact := reads.exact
  tree room fits := by
    have inner := reads.tree room fits
    have passed : ∀ tree, tree ≠ .null → (optional c).read room tree = (c.read room tree).map .some := by
      intro tree present
      cases tree <;> first | rfl | exact absurd rfl present
    have written : (c.write value).tree ≠ .null := by
      cases json : c.write value <;> simp_all [Json.tree]
    exact (passed _ written).trans (by rw [inner]; rfl)

theorem reads_members {entries : List (String × Json)} (sorted : Keyed.Sorted entries)
    (inside : ∀ inner, .object inner ∈ memberNodes entries → Keyed.Sorted inner)
    (exact : Exact (memberNodes entries)) : members.Reads entries entries where
  exact := exact.object
  tree room fits := by
    cases room with
    | zero => simp [members, depth] at fits
    | succ room =>
        exact membersToJson_memberTrees entries room [] (by simpa [members, depth] using fits) inside sorted

theorem Reads.convert {make : α → β} {parts : β → α} {whole other : β}
    (reads : c.Reads (parts whole) (parts other)) (made : make (parts other) = other) :
      (c.convert make parts).Reads whole other where
  exact := reads.exact
  tree room fits := by
    have inner := congrArg (·.map make) (reads.tree room fits)
    exact inner.trans (congrArg Except.ok made)

private theorem Reads.of_spelling (reads : c.Reads value result) {room : Nat} {text : List Char}
    (fits : (c.write value).depth ≤ room) (spelled : tokens text = (c.write value).spelling) :
      c.decodeChars room text = .ok result := by
  simp [Codec.decodeChars, ofText_of_spelling spelled, reads.tree room fits]

theorem Reads.decodeChars (reads : c.Reads value result) {room : Nat}
    (fits : (c.write value).depth ≤ room) :
      c.decodeChars room (c.write value).compactChars = .ok result :=
  reads.of_spelling fits (tokens_compactChars reads.exact)

theorem Reads.decode_encode (reads : c.Reads value result) (fits : (c.write value).depth ≤ depthLimit) :
    c.decode (c.encode value) = .ok result := by
  rw [Codec.decode, Codec.encode, compact, String.toList_ofList]
  exact reads.decodeChars fits

theorem Reads.decode_encodePretty (reads : c.Reads value result)
    (fits : (c.write value).depth ≤ depthLimit) : c.decode (c.encodePretty value) = .ok result := by
  rw [Codec.decode, Codec.encodePretty, pretty, String.toList_ofList]
  exact reads.of_spelling fits (tokens_prettyChars reads.exact 0)

/-- Bytes that are a text are read as that text. -/
@[simp] theorem decodeBytes_encode (c : Codec α) (text : String) :
    c.decodeBytes (Utf8.encode text) = c.decode text := by
  rw [decodeBytes, Utf8.encode, Utf8.segments_encodeChars, List.flatMap_map, List.flatMap_singleton',
    decode]

end Codec

namespace Presence

def writes : Presence α → α → Bool
  | .omitted _ isDefault, value => !isDefault value
  | .required, _ | .defaulted _, _ => true

/-- A field of a record passes its value on: it is written and read, or left out for the default. -/
def Carries (presence : Presence α) (codec : Codec α) (value result : α) : Prop :=
  if presence.writes value then codec.Reads value result else presence.default? = some result

end Presence

namespace Fields

def names : {α σ : Type} → Fields α σ → List String
  | _, _, .done => []
  | _, _, .field name _ _ rest => name :: rest.names

def Carry : {α σ : Type} → Fields α σ → α → α → Prop
  | _, _, .done, _, _ => True
  | _, _, .field _ codec presence rest, (value, more), (result, others) =>
    presence.Carries codec value result ∧ rest.Carry more others

def filled : {α σ : Type} → Fields α σ → α → α → σ
  | _, _, .done, _, _ => ()
  | _, _, .field _ _ presence rest, (value, more), (result, others) =>
    (if presence.writes value then some result else none, rest.filled more others)

section Field

variable {name : String} {codec : Codec α} {presence : Presence α} {rest : Fields β σ}

theorem write_field (value : α) (more : β) : (Fields.field name codec presence rest).write (value, more) =
    (if presence.writes value then [(name, codec.write value)] else []) ++ rest.write more := by
  cases presence with
  | omitted standard isDefault => cases left : isDefault value <;> simp [write, Presence.writes, left]
  | _ => simp [write, Presence.writes]

private theorem readMembers_of_others {room : Nat} {ending : Option Defect} {slot : Option α} {slots : σ}
    {members : List (Option String × Tree)} (others : ∀ member ∈ members, member.1 ≠ some name) :
    (Fields.field name codec presence rest).readMembers room ending (slot, slots) members =
      (rest.readMembers room ending slots members).map (slot, ·) := by
  induction members generalizing slots with
  | nil => cases ending <;> rfl
  | cons member members ih =>
      obtain ⟨key, tree⟩ := member
      have behind := fun slots => @ih slots fun member here => others member (by simp [here])
      cases key with
      | none => rfl
      | some key =>
          have other : key ≠ name := fun same => others (some key, tree) (by simp) (congrArg some same)
          simp only [readMembers, put, if_neg other]
          cases rest.put key room tree slots with
          | none =>
              cases tree.skip with
              | error fault => rfl
              | ok => exact behind slots
          | some done =>
              cases done with
              | error fault => rfl
              | ok slots => exact behind slots

end Field

private theorem mem_memberTrees {members : List (String × Json)} {member : Option String × Tree}
    (here : member ∈ memberTrees members) : ∃ name ∈ members.map (·.1), member.1 = some name := by
  induction members with
  | nil => simp [memberTrees] at here
  | cons first rest ih =>
      rw [memberTrees] at here
      rcases List.mem_cons.mp here with rfl | later
      · exact ⟨first.1, by simp, rfl⟩
      · obtain ⟨name, among, named⟩ := ih later
        exact ⟨name, by simp only [List.map_cons, List.mem_cons, among, or_true], named⟩

private theorem names_of_write : ∀ {α σ : Type} (fields : Fields α σ) (value : α),
    ∀ name ∈ (fields.write value).map (·.1), name ∈ fields.names
  | _, _, .done, _, _, here => nomatch here
  | _, _, .field own codec presence rest, (value, more), name, here => by
      rw [write_field, List.map_append] at here
      rcases List.mem_append.mp here with first | later
      · split at first <;> simp_all [names]
      · exact List.mem_cons_of_mem _ (names_of_write rest more name later)

private theorem exact_write : ∀ {α σ : Type} (fields : Fields α σ) (value result : α),
    fields.Carry value result → Exact (memberNodes (fields.write value))
  | _, _, .done, _, _, _ => ⟨fun _ => nofun, fun _ => nofun⟩
  | _, _, .field name codec presence rest, (value, more), (result, others), carry => by
      have inner := exact_write rest more others carry.2
      have first := carry.1
      rw [write_field, memberNodes_append]
      refine Exact.append ?_ inner
      cases written : presence.writes value with
      | true =>
          rw [Presence.Carries, if_pos written] at first
          simpa using first.exact
      | false => exact ⟨fun _ => nofun, fun _ => nofun⟩

private theorem complete_filled : ∀ {α σ : Type} (fields : Fields α σ) (value result : α),
    fields.Carry value result → fields.complete (fields.filled value result) = .ok result
  | _, _, .done, _, _, _ => rfl
  | _, _, .field name codec presence rest, (value, more), (result, others), carry => by
      have inner := complete_filled rest more others carry.2
      have first := carry.1
      have chosen : (if presence.writes value then some result else none).or presence.default? =
          some result := by
        cases written : presence.writes value with
        | true => rfl
        | false =>
            rw [Presence.Carries, written] at first
            exact first
      exact complete_field_eq_ok_iff.mpr ⟨result, others, chosen, inner, rfl⟩

private theorem readMembers_write : ∀ {α σ : Type} (fields : Fields α σ), fields.names.Nodup →
    ∀ (value result : α), fields.Carry value result → ∀ room, memberDepth (fields.write value) ≤ room →
      fields.readMembers room none fields.empty (memberTrees (fields.write value)) =
        .ok (fields.filled value result)
  | _, _, .done, _, _, _, _, _, _ => rfl
  | _, _, .field name codec presence rest, distinct, (value, more), (result, others), carry, room,
      fits => by
      obtain ⟨new, distinct⟩ := List.nodup_cons.mp distinct
      have first := carry.1
      -- No later field has the name of this one, so what is written for them passes it by.
      have apart : ∀ member ∈ memberTrees (rest.write more), member.1 ≠ some name := by
        intro member here same
        obtain ⟨other, among, named⟩ := mem_memberTrees here
        cases same.symm.trans named
        exact new (names_of_write rest more name among)
      rw [write_field] at fits ⊢
      cases written : presence.writes value with
      | true =>
          simp only [written, if_true, List.cons_append, List.nil_append, memberDepth, Nat.max_le] at fits ⊢
          rw [Presence.Carries, if_pos written] at first
          have inner := readMembers_write rest distinct more others carry.2 room fits.2
          simp only [memberTrees, readMembers, put, empty, if_true, first.tree room fits.1, Except.map,
            filled, written]
          rw [readMembers_of_others apart, inner]
          rfl
      | false =>
          simp only [written, Bool.false_eq_true, if_false, List.nil_append] at fits ⊢
          have inner := readMembers_write rest distinct more others carry.2 room fits
          rw [empty, readMembers_of_others apart, inner]
          simp [Except.map, filled, written]

theorem Carry.record {fields : Fields α σ} {value result : α} (distinct : fields.names.Nodup)
    (carry : fields.Carry value result) : fields.codec.Reads value result where
  exact := (exact_write fields value result carry).object
  tree room fits := by
    cases room with
    | zero => simp [codec, depth] at fits
    | succ room =>
        have members := readMembers_write fields distinct value result carry room
          (by simpa [codec, depth] using fits)
        simp only [codec, tree, members]
        exact complete_filled fields value result carry

end Fields

end ExchangeTap.Json
