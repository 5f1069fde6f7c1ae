import ExchangeTap.Proofs.Json.Accepting
import ExchangeTap.Proofs.Json.Building
import ExchangeTap.Proofs.Text.Keyed

namespace ExchangeTap.Json

mutual

/-- The levels of lists and objects. -/
def depth : Json → Nat
  | .list items => itemDepth items + 1
  | .object members => memberDepth members + 1
  | .null | .boolean _ | .number _ | .text _ => 0
termination_by structural value => value

def itemDepth : List Json → Nat
  | [] => 0
  | item :: rest => max item.depth (itemDepth rest)
termination_by structural items => items

def memberDepth : List (String × Json) → Nat
  | [] => 0
  | (_, value) :: rest => max value.depth (memberDepth rest)
termination_by structural members => members

end

theorem itemDepth_le_iff {items : List Json} {levels : Nat} :
    itemDepth items ≤ levels ↔ ∀ item ∈ items, item.depth ≤ levels := by
  induction items with
  | nil => simp [itemDepth]
  | cons item rest ih => rw [itemDepth, Nat.max_le, ih, List.forall_mem_cons]

theorem memberDepth_le_iff {members : List (String × Json)} {levels : Nat} :
    memberDepth members ≤ levels ↔ ∀ member ∈ members, member.2.depth ≤ levels := by
  induction members with
  | nil => simp [memberDepth]
  | cons member rest ih => rw [memberDepth, Nat.max_le, ih, List.forall_mem_cons]

mutual

theorem toJson_tree : ∀ (value : Json) (room : Nat), value.depth ≤ room →
    (∀ members, .object members ∈ value.nodes → Keyed.Sorted members) →
      value.tree.toJson room = .ok value
  | .null, _, _, _ => rfl
  | .boolean _, _, _, _ => rfl
  | .number _, _, _, _ => rfl
  | .text _, _, _, _ => rfl
  | .list items, room, fits, sorted => by
      cases room with
      | zero => simp [depth] at fits
      | succ room =>
          have inner := itemsToJson_itemTrees items room (by simpa [depth] using fits)
            fun members here => sorted members (by simp [here])
          rw [tree, Tree.toJson, inner]
          rfl
  | .object members, room, fits, sorted => by
      cases room with
      | zero => simp [depth] at fits
      | succ room =>
          have inner := membersToJson_memberTrees members room [] (by simpa [depth] using fits)
            (fun members here => sorted members (by simp [here]))
            (sorted members (by simp))
          rw [tree, Tree.toJson, inner]
          rfl

private theorem itemsToJson_itemTrees : ∀ (items : List Json) (room : Nat), itemDepth items ≤ room →
    (∀ members, .object members ∈ itemNodes items → Keyed.Sorted members) →
      Tree.itemsToJson room (itemTrees items) none = .ok items
  | [], _, _, _ => rfl
  | item :: rest, room, fits, sorted => by
      rw [itemDepth, Nat.max_le] at fits
      have first := toJson_tree item room fits.1
        fun members here => sorted members (by simp [here])
      have others := itemsToJson_itemTrees rest room fits.2
        fun members here => sorted members (by simp [here])
      exact Tree.itemsToJson_cons_eq_ok_iff.mpr ⟨item, rest, first, others, rfl⟩

theorem membersToJson_memberTrees : ∀ (members : List (String × Json)) (room : Nat)
    (read : List (String × Json)), memberDepth members ≤ room →
      (∀ inner, .object inner ∈ memberNodes members → Keyed.Sorted inner) →
        Keyed.Sorted (read ++ members) →
          Tree.membersToJson room read (memberTrees members) none = .ok (read ++ members)
  | [], _, read, _, _, _ => by
      rw [List.append_nil]
      rfl
  | (name, value) :: rest, room, read, fits, inside, sorted => by
      rw [memberDepth, Nat.max_le] at fits
      have first := toJson_tree value room fits.1
        fun members here => inside members (by simp [here])
      -- The members come in order, so each is inserted behind those that were read before.
      have last : Keyed.insert name value read = read ++ [(name, value)] :=
        Keyed.insert_of_last fun entry here => sorted.before entry here (name, value) (by simp)
      have others := membersToJson_memberTrees rest room (read ++ [(name, value)]) fits.2
        (fun members here => inside members (by simp [here])) (by simpa using sorted)
      rw [List.append_assoc, ← last] at others
      exact Tree.membersToJson_cons_eq_ok_iff.mpr ⟨name, value, rfl, first, others⟩

end

end ExchangeTap.Json
