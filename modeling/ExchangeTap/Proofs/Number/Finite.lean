import ExchangeTap.Number.Binary64

namespace ExchangeTap.Binary64

variable {n : Nat} {exponent : Int} {x : Binary64}

private theorem isFinite_of_lt (bound : x.bits.toNat < infinityBits) : x.isFinite = true := by
  have field : x.bits.toNat / 2 ^ 52 % 2 ^ 11 ≠ 2047 := by
    rw [infinityBits] at bound
    omega
  unfold isFinite classify
  simp only [if_neg field]
  by_cases subnormal : x.bits.toNat / 2 ^ 52 % 2 ^ 11 = 0
  · simp only [if_pos subnormal]
  · simp only [if_neg subnormal]

private theorem roundDiv_le (num den : Nat) : roundDiv num den ≤ num / den + 1 := by
  unfold roundDiv
  dsimp only
  split
  · omega
  split <;> omega

private theorem inUnits_lt (coarse : (n.log2 : Int) - 53 ≤ exponent) :
    (inUnits n 1 exponent).1 / (inUnits n 1 exponent).2 < 2 ^ 54 := by
  have size : n < 2 ^ (n.log2 + 1) := Nat.lt_log2_self
  unfold inUnits
  split
  · rename_i negative
    have room : n.log2 + 1 + exponent.natAbs ≤ 54 := by omega
    calc n * 2 ^ exponent.natAbs / 1
        = n * 2 ^ exponent.natAbs := Nat.div_one _
      _ < 2 ^ (n.log2 + 1) * 2 ^ exponent.natAbs :=
          Nat.mul_lt_mul_of_pos_right size (Nat.two_pow_pos _)
      _ = 2 ^ (n.log2 + 1 + exponent.natAbs) := (Nat.pow_add ..).symm
      _ ≤ 2 ^ 54 := Nat.pow_le_pow_right (by decide) room
  · rename_i positive
    have room : n.log2 + 1 ≤ 54 + exponent.natAbs := by omega
    rw [Nat.one_mul, Nat.div_lt_iff_lt_mul (Nat.two_pow_pos _), ← Nat.pow_add]
    exact Nat.lt_of_lt_of_le size (Nat.pow_le_pow_right (by decide) room)

theorem isFinite_ofNat (bound : n < 2 ^ 64) : (ofNat n).isFinite = true := by
  have digits : n.log2 < 64 := by
    by_cases none : n = 0
    · simp [none]
    · exact (Nat.log2_lt none).mpr bound
  have pattern : nearest 53 (-1074) infinityBits n 1 < infinityBits := by
    unfold nearest
    split
    · decide
    · have one : Nat.log2 1 = 0 := by decide
      have guess : max ((n.log2 : Int) - (Nat.log2 1 : Nat) - (53 : Nat)) (-1074) = n.log2 - 53 := by
        rw [one]
        omega
      dsimp only
      rw [guess]
      generalize choice : (if 2 ^ 53 ≤ (inUnits n 1 (n.log2 - 53)).1 / (inUnits n 1 (n.log2 - 53)).2
        then (n.log2 : Int) - 53 + 1 else n.log2 - 53) = exponent
      have least : (n.log2 : Int) - 53 ≤ exponent := by split at choice <;> omega
      have most : exponent ≤ n.log2 - 52 := by split at choice <;> omega
      have rounded := roundDiv_le (inUnits n 1 exponent).1 (inUnits n 1 exponent).2
      have units := inUnits_lt least
      have scale : (exponent - -1074).toNat ≤ 1085 := by omega
      unfold infinityBits
      omega
  apply isFinite_of_lt
  rw [ofNat, ofRatio]
  have small : nearest 53 (-1074) infinityBits n 1 < 2 ^ 64 :=
    Nat.lt_trans pattern (by decide)
  simpa [Nat.mod_eq_of_lt small] using pattern

end ExchangeTap.Binary64
