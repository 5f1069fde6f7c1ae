import Mathlib.Data.List.Forall2

namespace ExchangeTap

variable {α β ε : Type} {f : α → Except ε β} {items : List α} {results : List β} {error : ε}

theorem map_eq_ok_iff {one : Except ε α} {make : α → β} {result : β} :
    one.map make = .ok result ↔ ∃ value, one = .ok value ∧ make value = result := by
  cases one <;> simp [Except.map]

theorem map_eq_error_iff {one : Except ε α} {make : α → β} :
    one.map make = .error error ↔ one = .error error := by
  cases one <;> simp [Except.map]

theorem mapM_cons_of_ok {item : α} {result : β} (first : f item = .ok result) (items : List α) :
    (item :: items).mapM f = (items.mapM f).map (result :: ·) := by
  rw [List.mapM_cons, first]
  cases items.mapM f <;> rfl

theorem mapM_cons_of_error {item : α} (first : f item = .error error) (items : List α) :
    (item :: items).mapM f = .error error := by
  rw [List.mapM_cons, first]
  rfl

theorem mapM_eq_ok_iff :
    items.mapM f = .ok results ↔ List.Forall₂ (fun item result => f item = .ok result) items results := by
  induction items generalizing results with
  | nil => simp [pure, Except.pure, eq_comm]
  | cons item rest ih =>
      rw [List.forall₂_cons_left_iff]
      cases first : f item with
      | error error => simp [mapM_cons_of_error first]
      | ok result =>
          rw [mapM_cons_of_ok first, map_eq_ok_iff]
          simp [← ih, eq_comm]

theorem mapM_isOk_iff :
    (∃ results, items.mapM f = .ok results) ↔ ∀ item ∈ items, ∃ result, f item = .ok result := by
  simp only [mapM_eq_ok_iff]
  induction items with
  | nil => simp
  | cons item rest ih =>
      rw [List.forall_mem_cons, ← ih]
      constructor
      · rintro ⟨_, _ | ⟨first, others⟩⟩
        exact ⟨⟨_, first⟩, _, others⟩
      · rintro ⟨⟨result, first⟩, results, others⟩
        exact ⟨result :: results, .cons first others⟩

theorem mapM_eq_error_iff :
    items.mapM f = .error error ↔
      ∃ before item behind, items = before ++ item :: behind ∧
        (∀ earlier ∈ before, ∃ result, f earlier = .ok result) ∧ f item = .error error := by
  induction items with
  | nil => simp [pure, Except.pure]
  | cons item rest ih =>
      constructor
      · intro failed
        cases first : f item with
        | error other =>
            rw [mapM_cons_of_error first] at failed
            cases failed
            exact ⟨[], item, rest, rfl, nofun, first⟩
        | ok result =>
            rw [mapM_cons_of_ok first, map_eq_error_iff] at failed
            obtain ⟨before, failing, behind, rfl, fine, error⟩ := ih.mp failed
            exact ⟨item :: before, failing, behind, rfl, List.forall_mem_cons.mpr ⟨⟨result, first⟩, fine⟩,
              error⟩
      · rintro ⟨before, failing, behind, same, fine, failed⟩
        cases before with
        | nil =>
            cases same
            exact mapM_cons_of_error failed rest
        | cons first before =>
            cases same
            obtain ⟨⟨result, first⟩, fine⟩ := List.forall_mem_cons.mp fine
            rw [mapM_cons_of_ok first, map_eq_error_iff]
            exact ih.mpr ⟨before, failing, behind, rfl, fine, failed⟩

end ExchangeTap
