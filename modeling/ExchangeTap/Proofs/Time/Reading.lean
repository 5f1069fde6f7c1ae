import ExchangeTap.Proofs.Text.Digits
import ExchangeTap.Proofs.Time.Calendar
import ExchangeTap.Time.Reading

namespace ExchangeTap.Instant

variable {digits rest : List Char} {c mark : Char} {n width most low high : Nat}

theorem isDigit_iff : isDigit c = true ↔ Digits.IsDecimal c := by
  simp [isDigit, Digits.IsDecimal]

private theorem isBlank_of_isDecimal (decimal : Digits.IsDecimal c) : isBlank c = false := by
  have least : 48 ≤ c.toNat := decimal.1
  have greatest : c.toNat ≤ 57 := decimal.2
  simp only [isBlank, Bool.or_eq_false_iff, Bool.and_eq_false_iff, decide_eq_false_iff_not,
    beq_eq_false_iff_ne]
  omega

private theorem skipBlank_cons (solid : isBlank c = false) : skipBlank (c :: rest) = c :: rest := by
  simp [skipBlank, solid]

private theorem skipBlank_padded :
    skipBlank (Digits.padded width n ++ rest) = Digits.padded width n ++ rest := by
  cases written : Digits.padded width n with
  | nil => exact absurd written (Digits.padded_ne_nil width n)
  | cons first digits =>
      have decimal : Digits.IsDecimal first := Digits.isDecimal_of_mem_padded (by rw [written]; simp)
      exact skipBlank_cons (isBlank_of_isDecimal decimal)

private theorem readNumber_append (decimal : ∀ c ∈ digits, Digits.IsDecimal c) (some : digits ≠ [])
    (fits : digits.length ≤ most)
    (ends : digits.length = most ∨ ∃ c more, rest = c :: more ∧ isDigit c = false) :
    readNumber most (digits ++ rest) = .some (Digits.read 0 digits, rest) := by
  have taken : ((digits ++ rest).take most).takeWhile isDigit = digits := by
    have all : ∀ c ∈ digits, isDigit c = true := fun c here => isDigit_iff.mpr (decimal c here)
    rw [List.take_append, List.take_of_length_le fits, List.takeWhile_append_of_pos all]
    rcases ends with whole | ⟨c, more, rfl, stop⟩
    · simp [whole]
    · cases most - digits.length <;> simp [stop]
  cases digits with
  | nil => exact absurd rfl some
  | cons first digits =>
      rw [readNumber, taken]
      simp

private theorem readNumber_padded (bound : n < 10 ^ width) (positive : 0 < width) :
    readNumber width (Digits.padded width n ++ rest) = some (n, rest) := by
  have length := Digits.length_padded bound positive
  rw [readNumber_append (fun c here => Digits.isDecimal_of_mem_padded here) (Digits.padded_ne_nil width n)
    (Nat.le_of_eq length) (.inl length), Digits.read_padded]

private theorem readBetween_padded (least : low ≤ n) (greatest : n ≤ high) (small : high < 100) :
    readBetween low high (Digits.padded 2 n ++ rest) = some (n, rest) := by
  have bound : n < 10 ^ 2 := by omega
  simp [readBetween, skipBlank_padded, readNumber_padded bound, least, greatest]

private theorem readMark_cons (solid : isBlank mark = false) : readMark mark (mark :: rest) = some rest := by
  simp [readMark, skipBlank_cons solid]

private theorem readYear_minus :
    readYear ('-' :: rest) = (readNumber rest.length rest).map fun (n, rest) => (-(n : Int), rest) := rfl

private theorem readYear_plus :
    readYear ('+' :: rest) = (readNumber rest.length rest).map fun (n, rest) => ((n : Int), rest) := rfl

private theorem readYear_of_isDecimal (decimal : Digits.IsDecimal c) :
    readYear (c :: rest) = (readNumber 4 (c :: rest)).map fun (n, rest) => ((n : Int), rest) := by
  rw [readYear, skipBlank_cons (isBlank_of_isDecimal decimal)]
  split
  next sign => cases sign; exact absurd decimal (by simp [Digits.IsDecimal])
  next sign => cases sign; exact absurd decimal (by simp [Digits.IsDecimal])
  next => rfl

/-- A year with a sign is followed by a separator, so it may have any number of digits. -/
private theorem readYear_writeYear (year : Int) :
    readYear (writeYear year ++ '-' :: rest) = some (year, '-' :: rest) := by
  have signed : readNumber (Digits.padded 4 year.natAbs ++ '-' :: rest).length
      (Digits.padded 4 year.natAbs ++ '-' :: rest) = some (year.natAbs, '-' :: rest) := by
    rw [readNumber_append (fun c here => Digits.isDecimal_of_mem_padded here) (Digits.padded_ne_nil 4 _)
      (by simp) (.inr ⟨'-', rest, rfl, by decide⟩), Digits.read_padded]
  rw [writeYear]
  split
  next plain =>
    have number : readNumber 4 (Digits.padded 4 year.natAbs ++ '-' :: rest) =
        some (year.natAbs, '-' :: rest) := readNumber_padded (by omega) (by decide)
    cases written : Digits.padded 4 year.natAbs with
    | nil => exact absurd written (Digits.padded_ne_nil 4 _)
    | cons first digits =>
        have decimal : Digits.IsDecimal first := Digits.isDecimal_of_mem_padded (by rw [written]; simp)
        rw [written, List.cons_append] at number
        rw [List.cons_append, readYear_of_isDecimal decimal, number]
        simp [Int.natAbs_of_nonneg plain.1]
  next =>
    split
    next negative =>
      rw [List.cons_append, readYear_minus, signed]
      simp [Int.ofNat_natAbs_of_nonpos (Int.le_of_lt negative)]
    next positive =>
      rw [List.cons_append, readYear_plus, signed]
      simp [Int.natAbs_of_nonneg (Int.not_lt.mp positive)]

private theorem readDate_ofDays (days : Int) (least : firstYear ≤ (Date.ofDays days).year)
    (greatest : (Date.ofDays days).year ≤ lastYear) :
    readDate (writeYear (Date.ofDays days).year ++ '-' :: (Digits.padded 2 (Date.ofDays days).month.toNat ++
      '-' :: (Digits.padded 2 (Date.ofDays days).day.toNat ++ rest))) = some (Date.ofDays days, rest) := by
  have months := Date.month_ofDays days
  have inMonth := Date.day_ofDays days
  have exist := Date.exists_ofDays days
  generalize Date.ofDays days = date at *
  obtain ⟨year, month, day⟩ := date
  dsimp only at *
  have month' : (month.toNat : Int) = month := Int.toNat_of_nonneg (by omega)
  have day' : (day.toNat : Int) = day := Int.toNat_of_nonneg (by omega)
  have monthRead : ∀ rest, readBetween 1 12 (Digits.padded 2 month.toNat ++ rest) =
      some (month.toNat, rest) := fun rest => readBetween_padded (by omega) (by omega) (by decide)
  have dayRead : readBetween 1 31 (Digits.padded 2 day.toNat ++ rest) = some (day.toNat, rest) :=
    readBetween_padded (by omega) (by omega) (by decide)
  have dash : ∀ rest, readMark '-' ('-' :: rest) = some rest := fun rest => readMark_cons (by decide)
  simp [readDate, readYear_writeYear, dash, monthRead, dayRead, month', day', least, greatest, exist]

private theorem readFraction_cons (decimal : ∀ c ∈ digits, Digits.IsDecimal c) (some : digits ≠ [])
    (fits : digits.length ≤ 9) (stop : isDigit c = false) :
    readFraction ('.' :: (digits ++ c :: rest)) =
      .some (Digits.read 0 digits * 10 ^ (9 - digits.length), c :: rest) := by
  have all : ∀ c ∈ digits, isDigit c = true := fun c here => isDigit_iff.mpr (decimal c here)
  have taken : ((digits ++ c :: rest).take 9).takeWhile isDigit = digits := by
    rw [List.take_append, List.take_of_length_le fits, List.takeWhile_append_of_pos all]
    cases 9 - digits.length <;> simp [stop]
  cases digits with
  | nil => exact absurd rfl some
  | cons first digits =>
      rw [readFraction, taken]
      simp [stop]

private theorem readFraction_write (small : n < second) (stop : isDigit c = false) (plain : c ≠ '.') :
    readFraction (Fraction.write n .needed ++ c :: rest) = some (n, c :: rest) := by
  have digits : ∀ width n, 0 < width → width ≤ 9 → n < 10 ^ width →
      readFraction ('.' :: (Digits.padded width n ++ c :: rest)) =
        some (n * 10 ^ (9 - width), c :: rest) := by
    intro width n positive most bound
    have length := Digits.length_padded bound positive
    rw [readFraction_cons (fun c here => Digits.isDecimal_of_mem_padded here) (Digits.padded_ne_nil width n)
      (by omega) stop, length, Digits.read_padded]
  unfold second at small
  simp only [Fraction.write]
  split
  next none =>
    subst none
    simp [readFraction, plain]
  next =>
    split
    next millis =>
      have whole : n / 1000000 * 10 ^ (9 - 3) = n := by omega
      rw [List.cons_append, digits 3 _ (by decide) (by decide) (by omega), whole]
    next =>
      split
      next micros =>
        have whole : n / 1000 * 10 ^ (9 - 6) = n := by omega
        rw [List.cons_append, digits 6 _ (by decide) (by decide) (by omega), whole]
      next =>
        rw [List.cons_append, digits 9 _ (by decide) (by decide) (by omega)]
        simp

private theorem readTime_padded {hour minute second nanos : Nat} (hours : hour ≤ 23) (minutes : minute ≤ 59)
    (seconds : second ≤ 60) (small : nanos < Instant.second) :
    readTime (Digits.padded 2 hour ++ ':' :: (Digits.padded 2 minute ++ ':' :: (Digits.padded 2 second ++
      (Fraction.write nanos .needed ++ ['Z'])))) =
        some (hour * 3600 + minute * 60 + second - second / 60,
          nanos + second / 60 * Instant.second, ['Z']) := by
  have hourRead : ∀ rest, readBetween 0 23 (Digits.padded 2 hour ++ rest) = some (hour, rest) :=
    fun rest => readBetween_padded (Nat.zero_le _) hours (by decide)
  have minuteRead : ∀ rest, readBetween 0 59 (Digits.padded 2 minute ++ rest) = some (minute, rest) :=
    fun rest => readBetween_padded (Nat.zero_le _) minutes (by decide)
  have secondRead : ∀ rest, readBetween 0 60 (Digits.padded 2 second ++ rest) = some (second, rest) :=
    fun rest => readBetween_padded (Nat.zero_le _) seconds (by decide)
  have colon : ∀ rest, readMark ':' (':' :: rest) = some rest := fun rest => readMark_cons (by decide)
  have fraction : readFraction (Fraction.write nanos .needed ++ ['Z']) = some (nanos, ['Z']) :=
    readFraction_write small (by decide) (by decide)
  simp [readTime, hourRead, minuteRead, secondRead, colon, fraction]

private theorem readChars_padded {days : Int} {hour minute second nanos : Nat}
    (least : firstYear ≤ (Date.ofDays days).year) (greatest : (Date.ofDays days).year ≤ lastYear)
    (hours : hour ≤ 23) (minutes : minute ≤ 59) (seconds : second ≤ 60)
    (small : nanos < Instant.second) :
    readChars (writeYear (Date.ofDays days).year ++
      '-' :: (Digits.padded 2 (Date.ofDays days).month.toNat ++
        '-' :: (Digits.padded 2 (Date.ofDays days).day.toNat ++
          'T' :: (Digits.padded 2 hour ++ ':' :: (Digits.padded 2 minute ++ ':' :: (Digits.padded 2 second ++
            (Fraction.write nanos .needed ++ ['Z']))))))) =
      let instant : Instant := ⟨days * 86400 + (hour * 3600 + minute * 60 + second - second / 60 : Nat),
        nanos + second / 60 * Instant.second⟩
      if instant.Valid then some instant else none := by
  have zone : readZone ['Z'] = some (0, []) := by decide
  have ending : skipBlank ['Z'] = ['Z'] := by decide
  have nothing : skipBlank [] = [] := rfl
  simp only [readChars, readDate_ofDays days least greatest, readTime_padded hours minutes seconds small,
    Option.bind_eq_bind, Option.bind_some, true_or, if_true, ending, zone, nothing, true_and,
    Date.toDays_ofDays, Int.sub_zero]

private theorem writeChars_eq (t : Instant) (fraction : Fraction) :
    t.writeChars fraction =
      writeYear (Date.ofDays (t.seconds / 86400)).year ++
        '-' :: (Digits.padded 2 (Date.ofDays (t.seconds / 86400)).month.toNat ++
          '-' :: (Digits.padded 2 (Date.ofDays (t.seconds / 86400)).day.toNat ++
            'T' :: (Digits.padded 2 ((t.seconds % 86400).toNat / 3600) ++
              ':' :: (Digits.padded 2 ((t.seconds % 86400).toNat / 60 % 60) ++
                ':' :: (Digits.padded 2 ((t.seconds % 86400).toNat % 60 + t.nanos / second) ++
                  (fraction.write (t.nanos % second) ++ ['Z'])))))) := by
  simp [writeChars]

/-- How an instant is told: one in a leap second that does not end a minute is told by the next second. -/
def settled (t : Instant) : Instant :=
  if t.nanos < second ∨ t.seconds % 60 = 59 then t else ⟨t.seconds + 1, t.nanos - second⟩

private theorem settled_of_valid {t : Instant} (valid : t.Valid) : t.settled = t :=
  if_pos (valid.2.2.imp_right (·.2))

private theorem settled_eq {t : Instant} {time shown : Nat} (ofDay : time = (t.seconds % 86400).toNat)
    (withLeap : shown = time % 60 + t.nanos / second) (small : t.nanos < 2 * second) :
    t.settled = ⟨t.seconds / 86400 * 86400 +
        (time / 3600 * 3600 + time / 60 % 60 * 60 + shown - shown / 60 : Nat),
      t.nanos % second + shown / 60 * second⟩ := by
  obtain ⟨seconds, nanos⟩ := t
  unfold settled second at *
  dsimp only at *
  have clock : time / 3600 * 3600 + time / 60 % 60 * 60 + time % 60 = time := by omega
  by_cases plain : nanos < 1000000000
  · have none : shown / 60 = 0 := by omega
    rw [if_pos (.inl plain), none, mk.injEq]
    omega
  · -- A leap second is read as one where second 60 is written, which is at the end of a minute.
    by_cases ending : seconds % 60 = 59
    · have leap : shown / 60 = 1 := by omega
      rw [if_pos (.inr ending), leap, mk.injEq]
      omega
    · have none : shown / 60 = 0 := by omega
      rw [if_neg (not_or.mpr ⟨plain, ending⟩), none, mk.injEq]
      omega

private theorem settled_day (t : Instant) : t.settled.seconds / 86400 = t.seconds / 86400 := by
  unfold settled
  split
  next => rfl
  next strange =>
    have inside : t.seconds % 60 ≠ 59 := fun same => strange (.inr same)
    dsimp only
    omega

/-- The instants that there are: the year is in range, and there are no more nanoseconds than a leap second
has. -/
structure Told (t : Instant) : Prop where
  least : firstYear ≤ (Date.ofDays (t.seconds / 86400)).year
  greatest : (Date.ofDays (t.seconds / 86400)).year ≤ lastYear
  nanos : t.nanos < 2 * second

theorem Valid.told {t : Instant} (valid : t.Valid) : t.Told where
  least := valid.1
  greatest := valid.2.1
  nanos := valid.2.2.elim (fun plain => Nat.lt_trans plain (by decide)) (·.1)

private theorem Told.valid_settled {t : Instant} (told : t.Told) : t.settled.Valid := by
  refine ⟨?_, ?_, ?_⟩
  · rw [settled_day]
    exact told.least
  · rw [settled_day]
    exact told.greatest
  · have small := told.nanos
    unfold settled
    split
    next plain => exact plain.imp_right fun ending => ⟨small, ending⟩
    next strange =>
      have large : ¬t.nanos < second := fun plain => strange (.inl plain)
      unfold second at *
      dsimp only
      omega

theorem Told.settled_eq_iff {t : Instant} (told : t.Told) : t.settled = t ↔ t.Valid :=
  ⟨fun same => same ▸ told.valid_settled, settled_of_valid⟩

theorem Told.read_write {t : Instant} (told : t.Told) : read (t.write .needed) = some t.settled := by
  have small := told.nanos
  have leap : t.nanos / second ≤ 1 := by unfold second at *; omega
  have parts := readChars_padded told.least told.greatest
    (show (t.seconds % 86400).toNat / 3600 ≤ 23 by omega)
    (show (t.seconds % 86400).toNat / 60 % 60 ≤ 59 by omega)
    (show (t.seconds % 86400).toNat % 60 + t.nanos / second ≤ 60 by omega)
    (Nat.mod_lt t.nanos (show second > 0 by decide))
  rw [read, write, String.toList_ofList, writeChars_eq, parts, ← settled_eq rfl rfl small]
  exact if_pos told.valid_settled

end ExchangeTap.Instant
