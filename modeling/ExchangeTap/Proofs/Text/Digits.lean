import ExchangeTap.Text.Digits

namespace ExchangeTap.Digits

variable {d n : Nat} {c : Char} {width : Nat}

def IsDecimal (c : Char) : Prop :=
  '0' ≤ c ∧ c ≤ '9'

private theorem isDecimal_char (small : d < 10) : IsDecimal (char d) := by
  unfold IsDecimal
  revert d
  decide

private theorem value_char (small : d < 10) : value (char d) = d := by
  revert d
  decide

theorem isDecimal_of_mem_write (here : c ∈ write n) : IsDecimal c := by
  fun_induction write n with
  | case1 n small => exact List.mem_singleton.mp here ▸ isDecimal_char small
  | case2 n large ih =>
      rcases List.mem_append.mp here with earlier | last
      · exact ih earlier
      · exact List.mem_singleton.mp last ▸ isDecimal_char (Nat.mod_lt n (by decide))

@[simp] private theorem read_append (start : Nat) (first second : List Char) :
    read start (first ++ second) = read (read start first) second :=
  List.foldl_append

theorem le_read (start : Nat) (digits : List Char) : start ≤ read start digits := by
  induction digits generalizing start with
  | nil => exact Nat.le_refl _
  | cons digit rest ih =>
      have step : start ≤ start * 10 + value digit := by omega
      exact Nat.le_trans step (ih _)

theorem read_write (n : Nat) : read 0 (write n) = n := by
  fun_induction write n with
  | case1 n small => simp [read, value_char small]
  | case2 n large ih =>
      rw [read_append, ih]
      simp only [read, List.foldl_cons, List.foldl_nil, value_char (Nat.mod_lt n (show 10 > 0 by decide))]
      omega

private theorem write_injective {m n : Nat} (same : write m = write n) : m = n := by
  rw [← read_write m, same, read_write]

theorem write_ne_nil (n : Nat) : write n ≠ [] := by
  rw [write]
  split <;> simp

theorem write_ne_minus (n : Nat) (rest : List Char) : write n ≠ '-' :: rest := by
  intro minus
  have decimal : IsDecimal '-' := isDecimal_of_mem_write (n := n) (by simp [minus])
  exact absurd decimal (by unfold IsDecimal; decide)

theorem integer_injective {m n : Int} (same : integer m = integer n) : m = n := by
  unfold integer at same
  split at same <;> split at same
  next => have digits := write_injective (List.cons.inj same).2; omega
  next => exact absurd same.symm (write_ne_minus _ _)
  next => exact absurd same (write_ne_minus _ _)
  next => have digits := write_injective same; omega

theorem eq_nil_of_write_zero {rest : List Char} (zero : write n = '0' :: rest) : rest = [] := by
  fun_induction write n generalizing rest with
  | case1 n small => exact (List.cons.inj zero).2.symm
  | case2 n large ih =>
      cases leading : write (n / 10) with
      | nil => exact absurd leading (write_ne_nil _)
      | cons first more =>
          rw [leading] at zero ih
          cases (List.cons.inj zero).1
          have none := ih rfl
          have value := read_write (n / 10)
          rw [leading, none] at value
          have tenth : n / 10 = 0 := value.symm
          omega

private theorem length_write_le (bound : n < 10 ^ width) (positive : 0 < width) :
    (write n).length ≤ width := by
  fun_induction write n generalizing width with
  | case1 n small => exact positive
  | case2 n large ih =>
      obtain ⟨width, rfl⟩ := Nat.exists_eq_add_one.mpr positive
      rw [Nat.pow_succ] at bound
      have more : 0 < width := by
        refine Nat.pos_of_ne_zero fun none => ?_
        subst none
        omega
      have shorter := ih (Nat.div_lt_of_lt_mul (Nat.mul_comm .. ▸ bound)) more
      simpa using shorter

theorem isDecimal_of_mem_padded (here : c ∈ padded width n) : IsDecimal c := by
  rcases List.mem_append.mp here with zero | digit
  · rw [List.eq_of_mem_replicate zero]
    exact ⟨by decide, by decide⟩
  · exact isDecimal_of_mem_write digit

theorem read_padded (width n : Nat) : read 0 (padded width n) = n := by
  have zeros : ∀ count, read 0 (List.replicate count '0') = 0 := by
    intro count
    induction count with
    | zero => rfl
    | succ count ih => exact ih
  rw [padded, read_append, zeros, read_write]

theorem length_padded (bound : n < 10 ^ width) (positive : 0 < width) :
    (padded width n).length = width := by
  have most := length_write_le bound positive
  simp only [padded, List.length_append, List.length_replicate]
  omega

theorem padded_ne_nil (width n : Nat) : padded width n ≠ [] := by
  simp [padded, write_ne_nil]

end ExchangeTap.Digits
