import ExchangeTap.Json.Value

namespace ExchangeTap.Json

mutual

/-- The value itself and everything inside of it. -/
@[simp] def nodes : Json → List Json
  | .list items => .list items :: itemNodes items
  | .object members => .object members :: memberNodes members
  | .null => [.null]
  | .boolean value => [.boolean value]
  | .number value => [.number value]
  | .text value => [.text value]
termination_by structural value => value

@[simp] def itemNodes : List Json → List Json
  | [] => []
  | item :: rest => item.nodes ++ itemNodes rest
termination_by structural items => items

@[simp] def memberNodes : List (String × Json) → List Json
  | [] => []
  | (_, value) :: rest => value.nodes ++ memberNodes rest
termination_by structural members => members

end

@[simp] theorem memberNodes_append (first second : List (String × Json)) :
    memberNodes (first ++ second) = memberNodes first ++ memberNodes second := by
  induction first with
  | nil => rfl
  | cons member rest ih => rw [List.cons_append, memberNodes, ih, memberNodes, List.append_assoc]

theorem mem_itemNodes {node : Json} {items : List Json} :
    node ∈ itemNodes items ↔ ∃ item ∈ items, node ∈ item.nodes := by
  induction items with
  | nil => simp
  | cons item rest ih => simp [ih]

theorem mem_memberNodes {node : Json} {members : List (String × Json)} :
    node ∈ memberNodes members ↔ ∃ member ∈ members, node ∈ member.2.nodes := by
  induction members with
  | nil => simp
  | cons member rest ih => simp [ih]

def FitsSigned (n : Int) : Prop :=
  -(2 ^ 63) ≤ n ∧ n < 2 ^ 63

instance (n : Int) : Decidable (FitsSigned n) :=
  inferInstanceAs (Decidable (_ ∧ _))

/-- What free-form JSON holds: integers of 64 bits with or without a sign, doubles that are finite, and
members in the order of their names. -/
structure Representable (nodes : List Json) : Prop where
  integers : ∀ n, .number (.integer n) ∈ nodes → -(2 ^ 63) ≤ n ∧ n < 2 ^ 64
  floats : ∀ x, .number (.float x) ∈ nodes → x.isFinite = true
  objects : ∀ members, .object members ∈ nodes → Keyed.Sorted members

variable {first second : List Json}

theorem Representable.mono (representable : Representable second) (inside : first ⊆ second) :
    Representable first :=
  ⟨fun n here => representable.integers n (inside here),
    fun x here => representable.floats x (inside here),
    fun members here => representable.objects members (inside here)⟩

/-- Numbers that are read as they are written: integers of 64 bits. -/
structure Exact (nodes : List Json) : Prop where
  integers : ∀ n, .number (.integer n) ∈ nodes → -(2 ^ 63) ≤ n ∧ n < 2 ^ 64
  floatless : ∀ x, .number (.float x) ∉ nodes

theorem Representable.exact {nodes : List Json} (representable : Representable nodes)
    (floatless : ∀ x, .number (.float x) ∉ nodes) : Exact nodes :=
  ⟨representable.integers, floatless⟩

theorem Exact.mono (exact : Exact second) (inside : first ⊆ second) : Exact first :=
  ⟨fun n here => exact.integers n (inside here), fun x here => exact.floatless x (inside here)⟩

theorem Exact.append (one : Exact first) (other : Exact second) : Exact (first ++ second) :=
  ⟨fun n here => (List.mem_append.mp here).elim (one.integers n) (other.integers n),
    fun x here => (List.mem_append.mp here).elim (one.floatless x) (other.floatless x)⟩

theorem Exact.object {members : List (String × Json)} (inner : Exact (memberNodes members)) :
    Exact (Json.object members).nodes :=
  ⟨fun n here => inner.integers n (by simpa using here),
    fun x here => inner.floatless x (by simpa using here)⟩

theorem Exact.list {items : List Json} (each : ∀ item ∈ items, Exact item.nodes) :
    Exact (Json.list items).nodes where
  integers n here := by
    obtain ⟨item, among, here⟩ := mem_itemNodes.mp (by simpa using here)
    exact (each item among).integers n here
  floatless x here := by
    obtain ⟨item, among, here⟩ := mem_itemNodes.mp (by simpa using here)
    exact (each item among).floatless x here

theorem exact_of_alone {value : Json} (alone : value.nodes = [value]) (other : ∀ n, value ≠ .number n) :
    Exact value.nodes := by
  rw [alone]
  exact ⟨fun n here => absurd (List.mem_singleton.mp here).symm (other _),
    fun x here => absurd (List.mem_singleton.mp here).symm (other _)⟩

end ExchangeTap.Json
