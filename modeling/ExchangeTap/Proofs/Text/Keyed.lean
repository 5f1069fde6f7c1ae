import ExchangeTap.Text.Keyed

namespace ExchangeTap.Keyed

variable {α : Type} {name : String} {value : α} {entries : List (String × α)}

instance (entries : List (String × α)) : Decidable (Sorted entries) :=
  inferInstanceAs (Decidable (entries.Pairwise _))

theorem insert_of_last (last : ∀ entry ∈ entries, entry.1 < name) :
    insert name value entries = entries ++ [(name, value)] := by
  induction entries with
  | nil => rfl
  | cons entry rest ih =>
      have behind := last entry (by simp)
      simp only [insert, if_neg (String.lt_asymm behind), if_neg (String.ne_of_lt behind).symm,
        ih fun entry here => last entry (by simp [here])]
      rfl

theorem perm_insert_of_fresh (fresh : name ∉ entries.map (·.1)) :
    (insert name value entries).Perm ((name, value) :: entries) := by
  induction entries with
  | nil => exact .refl _
  | cons entry rest ih =>
      obtain ⟨other, others⟩ := not_or.mp (mt List.mem_cons.mpr fresh)
      rw [insert, if_neg other]
      split
      next => exact .refl _
      next => exact ((ih others).cons entry).trans (.swap (name, value) entry rest)

theorem eq_or_mem_of_mem_insert {entry : String × α} (here : entry ∈ insert name value entries) :
    entry = (name, value) ∨ entry ∈ entries := by
  induction entries with
  | nil => exact .inl (List.mem_singleton.mp here)
  | cons first rest ih =>
      rw [insert] at here
      split at here
      next => exact List.mem_cons.mp here
      next =>
        split at here
        next => exact (List.mem_cons.mp here).imp_right (List.mem_cons_of_mem _)
        next =>
          rcases List.mem_cons.mp here with rfl | later
          · exact .inr List.mem_cons_self
          · exact (ih later).imp_right (List.mem_cons_of_mem _)

theorem Sorted.insert (sorted : Sorted entries) : Sorted (insert name value entries) := by
  induction entries with
  | nil => exact List.pairwise_singleton _ _
  | cons first rest ih =>
      obtain ⟨above, inner⟩ := List.pairwise_cons.mp sorted
      rw [Keyed.insert]
      split
      next less =>
        exact List.pairwise_cons.mpr ⟨List.forall_mem_cons.mpr ⟨less, fun entry here =>
          String.lt_trans less (above entry here)⟩, sorted⟩
      next notLess =>
        split
        next same =>
          subst same
          exact List.pairwise_cons.mpr ⟨above, inner⟩
        next other =>
          have greater : first.1 < name := Decidable.byContradiction fun notGreater =>
            other (String.le_antisymm (String.not_lt.mp notGreater) (String.not_lt.mp notLess))
          refine List.pairwise_cons.mpr ⟨fun entry here => ?_, ih inner⟩
          rcases eq_or_mem_of_mem_insert here with rfl | here
          · exact greater
          · exact above entry here

theorem Sorted.before {first second : List (String × α)} (sorted : Sorted (first ++ second)) :
    ∀ entry ∈ first, ∀ other ∈ second, entry.1 < other.1 :=
  (List.pairwise_append.mp sorted).2.2

end ExchangeTap.Keyed
