import Mathlib.Data.List.Infix
import ExchangeTap.Url.Redact

namespace ExchangeTap.Url

variable {c : Char} {more text before behind : List Char}

theorem splitFirst_append (more : List Char) (fresh : c ∉ more)
    (absent : ¬c :: more <:+: before) :
    splitFirst c more (before ++ c :: (more ++ behind)) = some (before, behind) := by
  induction before with
  | nil => simp [splitFirst]
  | cons d rest ih =>
      have later : ¬c :: more <:+: rest := fun inside => absent (List.infix_cons inside)
      rw [List.cons_append, splitFirst, ih later, if_neg]
      · rfl
      · rintro ⟨rfl, goesOn⟩
        have goesOn := List.isPrefixOf_iff_prefix.mp goesOn
        -- one that begins at `d` ends in front of the separator, or else that begins inside of it
        rcases Nat.lt_or_ge rest.length more.length with long | short
        · have upTo : rest ++ [d] <+: rest ++ d :: (more ++ behind) :=
            (List.prefix_append_right_inj rest).mpr ⟨_, rfl⟩
          have beyond : rest ++ [d] <+: more :=
            List.prefix_of_prefix_length_le upTo goesOn (by rw [List.length_append]; exact long)
          exact fresh (beyond.subset (by simp))
        · have within : more <+: rest :=
            List.prefix_of_prefix_length_le goesOn (List.prefix_append _ _) short
          exact absent (List.cons_prefix_cons.mpr ⟨rfl, within⟩).isInfix

theorem eq_of_splitFirst (found : splitFirst c more text = some (before, behind)) :
    text = before ++ c :: (more ++ behind) := by
  induction text generalizing before with
  | nil => cases found
  | cons d rest ih =>
      rw [splitFirst] at found
      split at found
      · rename_i here
        obtain ⟨rfl, goesOn⟩ := here
        obtain ⟨tail, rfl⟩ := List.isPrefixOf_iff_prefix.mp goesOn
        cases found
        simp
      · obtain ⟨⟨first, second⟩, later, same⟩ := Option.map_eq_some_iff.mp found
        cases same
        rw [ih later]
        rfl

theorem absent_of_splitFirst (found : splitFirst c more text = some (before, behind)) :
    ¬c :: more <:+: before := by
  induction text generalizing before with
  | nil => cases found
  | cons d rest ih =>
      have split := eq_of_splitFirst found
      rw [splitFirst] at found
      split at found
      · cases found
        simp
      · rename_i elsewhere
        obtain ⟨⟨first, second⟩, later, same⟩ := Option.map_eq_some_iff.mp found
        cases same
        intro inside
        rcases List.infix_cons_iff.mp inside with atStart | further
        · obtain ⟨rfl, goesOn⟩ := List.cons_prefix_cons.mp atStart
          have whole : first <+: rest := ⟨_, (List.cons.inj split).2.symm⟩
          exact elsewhere ⟨rfl, List.isPrefixOf_iff_prefix.mpr (goesOn.trans whole)⟩
        · exact ih later further

theorem splitFirst_eq_none_iff : splitFirst c more text = none ↔ ¬c :: more <:+: text := by
  induction text with
  | nil => simp [splitFirst]
  | cons d rest ih =>
      rw [splitFirst, List.infix_cons_iff, List.cons_prefix_cons, not_or, ← ih,
        ← List.isPrefixOf_iff_prefix]
      split
      · rename_i here
        simp [here]
      · rename_i elsewhere
        rw [Option.map_eq_none_iff, eq_comm (a := c), and_iff_right elsewhere]

private theorem splitFirst_eq_some_iff_of_fresh (fresh : c ∉ more) :
    splitFirst c more text = some (before, behind) ↔
      text = before ++ c :: (more ++ behind) ∧ ¬c :: more <:+: before := by
  constructor
  · exact fun found => ⟨eq_of_splitFirst found, absent_of_splitFirst found⟩
  · rintro ⟨rfl, absent⟩
    exact splitFirst_append more fresh absent

theorem splitFirst_eq_some_iff :
    splitFirst c [] text = some (before, behind) ↔ text = before ++ c :: behind ∧ c ∉ before := by
  rw [splitFirst_eq_some_iff_of_fresh List.not_mem_nil, List.singleton_infix_iff, List.nil_append]

theorem eq_of_first {before' behind' : List Char}
    (same : before ++ c :: behind = before' ++ c :: behind') (absent : c ∉ before)
    (absent' : c ∉ before') : before = before' ∧ behind = behind' := by
  have found : splitFirst c [] (before ++ c :: behind) = some (before, behind) :=
    splitFirst_eq_some_iff.mpr ⟨rfl, absent⟩
  rw [same, splitFirst_eq_some_iff.mpr ⟨rfl, absent'⟩] at found
  cases found
  exact ⟨rfl, rfl⟩

theorem splitLast_eq_none_iff : splitLast c text = none ↔ c ∉ text := by
  induction text with
  | nil => simp [splitLast]
  | cons d rest ih =>
      rw [splitLast, List.mem_cons, not_or, ← ih]
      cases splitLast c rest with
      | none => simp [eq_comm]
      | some parts => simp

theorem splitLast_eq_some_iff :
    splitLast c text = some (before, behind) ↔ text = before ++ c :: behind ∧ c ∉ behind := by
  induction text generalizing before with
  | nil => simp [splitLast]
  | cons d rest ih =>
      rw [splitLast]
      cases found : splitLast c rest with
      | none =>
          have absent := splitLast_eq_none_iff.mp found
          cases before with
          | nil => grind
          | cons e more => grind
      | some parts =>
          cases before with
          | nil => grind [splitLast_eq_none_iff]
          | cons e more => grind

theorem mem_of_before_last {d : Char} {front middle tail : List Char}
    (same : before ++ d :: behind = front ++ c :: (middle ++ d :: tail)) (last : d ∉ behind) :
    c ∈ before := by
  rcases List.append_eq_append_iff.mp same with ⟨rest, rfl, right⟩ | ⟨rest, rfl, right⟩
  · cases rest with
    | nil =>
        obtain ⟨rfl, rfl⟩ := List.cons.inj right
        simp at last
    | cons e more =>
        obtain ⟨rfl, rfl⟩ := List.cons.inj right
        simp at last
  · cases rest with
    | nil =>
        obtain ⟨rfl, rfl⟩ := List.cons.inj right
        simp at last
    | cons e more =>
        obtain ⟨rfl, -⟩ := List.cons.inj right
        simp

end ExchangeTap.Url
