import ExchangeTap.Proofs.Json.Accepting
import ExchangeTap.Proofs.Json.Coding

namespace ExchangeTap.Json

variable {α β σ : Type} {levels : Nat}

namespace Codec

/-- The value is read back from what is written for it, which nests so many levels at most. -/
structure Keeps (c : Codec α) (levels : Nat) (value : α) : Prop where
  reads : c.Reads value value
  shallow : (c.write value).depth ≤ levels

variable {c : Codec α} {value : α}

theorem keeps_text (value : String) : text.Keeps levels value :=
  ⟨reads_text value, Nat.zero_le levels⟩

theorem keeps_boolean (value : Bool) : boolean.Keeps levels value :=
  ⟨reads_boolean value, Nat.zero_le levels⟩

theorem keeps_natural {bound n : Nat} (small : n < bound) (words : bound ≤ 2 ^ 64) :
    (natural bound).Keeps levels n :=
  ⟨reads_natural small words, Nat.zero_le levels⟩

theorem keeps_any {value : Json} (representable : Representable value.nodes)
    (floatless : ∀ x, .number (.float x) ∉ value.nodes) (shallow : value.depth ≤ levels) :
      any.Keeps levels value where
  reads := ⟨representable.exact floatless, fun room fits => toJson_tree value room fits representable.objects⟩
  shallow := shallow

theorem keeps_optional {value : Option α} (each : ∀ known ∈ value, c.Keeps levels known)
    (present : ∀ known, c.write known ≠ .null) : (optional c).Keeps levels value := by
  cases value with
  | none => exact ⟨⟨exact_of_alone rfl fun _ => nofun, fun _ _ => rfl⟩, Nat.zero_le levels⟩
  | some known =>
      have kept := each known rfl
      exact ⟨kept.reads.some (present known), kept.shallow⟩

private theorem readItems_written {room : Nat} {values : List α}
    (each : ∀ value ∈ values, c.Keeps room value) :
    c.readItems room none (itemTrees (values.map c.write)) = .ok values := by
  induction values with
  | nil => rfl
  | cons value rest ih =>
      obtain ⟨first, others⟩ := List.forall_mem_cons.mp each
      have read := first.reads.tree room first.shallow
      exact readItems_cons_eq_ok_iff.mpr ⟨value, rest, read, ih others, rfl⟩

theorem keeps_list {values : List α} (each : ∀ value ∈ values, c.Keeps levels value) :
    (list c).Keeps (levels + 1) values where
  reads := by
    refine ⟨Exact.list fun _ written => ?_, fun room fits => ?_⟩
    · obtain ⟨value, among, rfl⟩ := List.mem_map.mp written
      exact (each value among).reads.exact
    · cases room with
      | zero => simp [list, depth] at fits
      | succ room =>
          have inside := itemDepth_le_iff.mp (Nat.le_of_succ_le_succ fits)
          exact readItems_written fun value among =>
            ⟨(each value among).reads, inside _ (List.mem_map_of_mem among)⟩
  shallow := by
    refine Nat.succ_le_succ (itemDepth_le_iff.mpr fun _ written => ?_)
    obtain ⟨value, among, rfl⟩ := List.mem_map.mp written
    exact (each value among).shallow

theorem Keeps.reads_back (keeps : c.Keeps depthLimit value) :
    c.decode (c.encode value) = .ok value ∧ c.decode (c.encodePretty value) = .ok value :=
  ⟨keeps.reads.decode_encode keeps.shallow, keeps.reads.decode_encodePretty keeps.shallow⟩

end Codec

def Presence.Keeps (presence : Presence α) (codec : Codec α) (levels : Nat) (value : α) : Prop :=
  if presence.writes value then codec.Keeps levels value else presence.default? = some value

namespace Fields

def Keep : {α σ : Type} → Fields α σ → Nat → α → Prop
  | _, _, .done, _, _ => True
  | _, _, .field _ codec presence rest, levels, (value, more) =>
    presence.Keeps codec levels value ∧ rest.Keep levels more

theorem Keep.carry : ∀ {α σ : Type} {fields : Fields α σ} {levels : Nat} {value : α},
    fields.Keep levels value → fields.Carry value value
  | _, _, .done, _, _, _ => trivial
  | _, _, .field name codec presence rest, levels, (value, more), keep => by
      obtain ⟨first, others⟩ := keep
      refine ⟨?_, others.carry⟩
      unfold Presence.Keeps at first
      unfold Presence.Carries
      by_cases written : presence.writes value = true
      · rw [if_pos written] at first ⊢
        exact first.reads
      · rwa [if_neg written] at first ⊢

theorem Keep.shallow : ∀ {α σ : Type} {fields : Fields α σ} {levels : Nat} {value : α},
    fields.Keep levels value → memberDepth (fields.write value) ≤ levels
  | _, _, .done, levels, _, _ => Nat.zero_le levels
  | _, _, .field name codec presence rest, levels, (value, more), keep => by
      obtain ⟨first, others⟩ := keep
      unfold Presence.Keeps at first
      rw [write_field]
      by_cases written : presence.writes value = true
      · rw [if_pos written] at first ⊢
        exact Nat.max_le.mpr ⟨first.shallow, others.shallow⟩
      · rw [if_neg written]
        exact others.shallow

end Fields

theorem Codec.Keeps.record {fields : Fields α σ} {make : α → β} {parts : β → α} {whole : β}
    (distinct : fields.names.Nodup) (made : make (parts whole) = whole)
    (keep : fields.Keep levels (parts whole)) : (fields.codec.convert make parts).Keeps (levels + 1) whole :=
  ⟨(keep.carry.record distinct).convert made, Nat.succ_le_succ keep.shallow⟩

end ExchangeTap.Json
