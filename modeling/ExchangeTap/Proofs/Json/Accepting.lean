import ExchangeTap.Json.Codec
import ExchangeTap.Proofs.Failing

namespace ExchangeTap.Json

variable {α β σ : Type} {room : Nat} {tree : Tree} {ending : Option Defect}

namespace Tree

theorem closed_map_eq_ok_iff {make : Unit → α} {result : α} :
    (closed ending).map make = .ok result ↔ ending = none ∧ make () = result := by
  cases ending <;> simp [closed, Except.map]

theorem itemsToJson_cons_eq_ok_iff {item : Tree} {rest : List Tree} {values : List Json} :
    itemsToJson room (item :: rest) ending = .ok values ↔
      ∃ value others, item.toJson room = .ok value ∧ itemsToJson room rest ending = .ok others ∧
        value :: others = values := by
  rw [itemsToJson]
  cases item.toJson room <;> simp [map_eq_ok_iff]

theorem membersToJson_cons_eq_ok_iff {key : Option String} {rest : List (Option String × Tree)}
    {before values : List (String × Json)} :
    membersToJson room before ((key, tree) :: rest) ending = .ok values ↔
      ∃ name value, key = some name ∧ tree.toJson room = .ok value ∧
        membersToJson room (Keyed.insert name value before) rest ending = .ok values := by
  cases key with
  | none => simp [membersToJson]
  | some name =>
      rw [membersToJson]
      cases tree.toJson room <;> simp

end Tree

namespace Codec

variable {c : Codec α}

theorem read_of_decodeChars {text : List Char} {value : α} (read : c.decodeChars room text = .ok value) :
    c.read room (Tree.ofText text).1 = .ok value ∧ (Tree.ofText text).2 = false := by
  simp only [decodeChars] at read
  split at read
  next => cases read
  next inner =>
    split at read
    next => cases read
    next alone =>
      cases read
      exact ⟨inner, Bool.eq_false_iff.mpr alone⟩

theorem readItems_cons_eq_ok_iff {item : Tree} {rest : List Tree} {values : List α} :
    c.readItems room ending (item :: rest) = .ok values ↔
      ∃ value others, c.read room item = .ok value ∧ c.readItems room ending rest = .ok others ∧
        value :: others = values := by
  rw [readItems]
  cases c.read room item <;> simp [map_eq_ok_iff]

end Codec

namespace Fields

section Field

variable {name own : String} {codec : Codec α} {presence : Presence α} {rest : Fields β σ}

theorem put_field_eq_ok_iff {slot : Option α} {more : σ} {filled : Option α × σ} :
    (Fields.field own codec presence rest).put name room tree (slot, more) = some (.ok filled) ↔
      (name = own ∧ slot = none ∧ ∃ value, codec.read room tree = .ok value ∧ (some value, more) = filled) ∨
        (name ≠ own ∧ ∃ others, rest.put name room tree more = some (.ok others) ∧
          (slot, others) = filled) := by
  by_cases same : name = own
  · cases slot <;> simp [put, same, map_eq_ok_iff]
  · have passed : (Fields.field own codec presence rest).put name room tree (slot, more) =
        (rest.put name room tree more).map fun result => result.map (slot, ·) := if_neg same
    rw [passed, Option.map_eq_some_iff]
    constructor
    · rintro ⟨result, later, mapped⟩
      obtain ⟨others, rfl, rfl⟩ := map_eq_ok_iff.mp mapped
      exact .inr ⟨same, others, later, rfl⟩
    · rintro (⟨other, -⟩ | ⟨-, others, later, rfl⟩)
      · exact absurd other same
      · exact ⟨_, later, rfl⟩

theorem complete_field_eq_ok_iff {slot : Option α} {more : σ} {whole : α × β} :
    (Fields.field name codec presence rest).complete (slot, more) = .ok whole ↔
      ∃ value others, slot.or presence.default? = some value ∧ rest.complete more = .ok others ∧
        (value, others) = whole := by
  rw [complete]
  cases slot.or presence.default? <;> simp [map_eq_ok_iff]

theorem readPositions_cons_eq_ok_iff {item : Tree} {items : List Tree} {whole : α × β} :
    (Fields.field name codec presence rest).readPositions room ending (item :: items) = .ok whole ↔
      ∃ value others, codec.read room item = .ok value ∧ rest.readPositions room ending items = .ok others ∧
        (value, others) = whole := by
  rw [readPositions]
  cases codec.read room item <;> simp [map_eq_ok_iff]

theorem readPositions_nil_eq_ok_iff {whole : α × β} :
    (Fields.field name codec presence rest).readPositions room ending [] = .ok whole ↔
      ending = none ∧ ∃ value others, presence.default? = some value ∧
        rest.readPositions room none [] = .ok others ∧ (value, others) = whole := by
  cases ending with
  | some defect => simp [readPositions]
  | none =>
      rw [readPositions]
      cases presence.default? <;> simp [map_eq_ok_iff]

end Field

theorem readMembers_cons_eq_ok_iff {fields : Fields α σ} {slots filled : σ} {key : Option String}
    {rest : List (Option String × Tree)} :
    fields.readMembers room ending slots ((key, tree) :: rest) = .ok filled ↔
      ∃ name, key = some name ∧
        ((∃ next, fields.put name room tree slots = some (.ok next) ∧
            fields.readMembers room ending next rest = .ok filled) ∨
          (fields.put name room tree slots = none ∧ tree.skip = .ok () ∧
            fields.readMembers room ending slots rest = .ok filled)) := by
  cases key with
  | none => simp [readMembers]
  | some name =>
      rw [readMembers]
      cases put : fields.put name room tree slots with
      | none => cases tree.skip <;> simp [put]
      | some result => cases result <;> simp [put]

theorem read_object_eq_ok_iff {fields : Fields α σ} {members : List (Option String × Tree)} {value : α} :
    fields.codec.read (room + 1) (.object members ending) = .ok value ↔
      ∃ slots, fields.readMembers room ending fields.empty members = .ok slots ∧
        fields.complete slots = .ok value := by
  simp only [codec]
  cases fields.readMembers room ending fields.empty members <;> simp

end Fields

end ExchangeTap.Json
