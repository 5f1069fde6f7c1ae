import ExchangeTap.Text.Utf8

namespace ExchangeTap.Utf8

variable {a b low high : UInt8} {c : Char} {count n : Nat} {cs : List Char} {bytes rest : List UInt8}

theorem toNat_toUInt8 (bound : n < 256) : n.toUInt8.toNat = n := by
  simp [Nat.mod_eq_of_lt bound]

private theorem lead_eq (a : UInt8) : lead a =
    if a.toNat < 0x80 then .alone
    else if a.toNat < 0xC2 then .never
    else if a.toNat < 0xE0 then .followed 1 0x80 0xBF
    else if a.toNat = 0xE0 then .followed 2 0xA0 0xBF
    else if a.toNat = 0xED then .followed 2 0x80 0x9F
    else if a.toNat < 0xF0 then .followed 2 0x80 0xBF
    else if a.toNat = 0xF0 then .followed 3 0x90 0xBF
    else if a.toNat < 0xF4 then .followed 3 0x80 0xBF
    else if a.toNat = 0xF4 then .followed 3 0x80 0x8F
    else .never := by
  simp only [lead, UInt8.lt_iff_toNat_lt, ← UInt8.toNat_inj]
  rfl

private theorem isTail_eq (a : UInt8) : isTail a = decide (0x80 ≤ a.toNat ∧ a.toNat ≤ 0xBF) := by
  simp only [isTail, UInt8.le_iff_toNat_le, Bool.decide_and]
  rfl

theorem toNat_lt (c : Char) : c.toNat < 0xD800 ∨ 0xDFFF < c.toNat ∧ c.toNat < 0x110000 :=
  c.valid

private theorem segments_one (leads : lead a = .alone) :
    segments (a :: rest) = .char (Char.ofNat a.toNat) :: segments rest := by
  rw [segments, leads]

private theorem segments_two (leads : lead a = .followed 1 low high) (least : low ≤ b) (most : b ≤ high) :
    segments (a :: b :: rest) =
      .char (Char.ofNat (a.toNat % 0x20 * 0x40 + payload b)) :: segments rest := by
  simp [segments, leads, least, most]

private theorem segments_three {third : UInt8} (leads : lead a = .followed 2 low high) (least : low ≤ b)
    (most : b ≤ high) (tail : isTail third = true) :
    segments (a :: b :: third :: rest) =
      .char (Char.ofNat (a.toNat % 0x10 * 0x1000 + payload b * 0x40 + payload third)) ::
        segments rest := by
  simp [segments, leads, least, most, tail]

private theorem segments_four {third fourth : UInt8} (leads : lead a = .followed 3 low high) (least : low ≤ b)
    (most : b ≤ high) (tail : isTail third = true) (last : isTail fourth = true) :
    segments (a :: b :: third :: fourth :: rest) =
      .char (Char.ofNat (a.toNat % 0x08 * 0x40000 + payload b * 0x1000 + payload third * 0x40 +
        payload fourth)) :: segments rest := by
  simp [segments, leads, least, most, tail, last]

private theorem leads_two (long : 0x80 ≤ n) (short : n < 0x800) :
    lead (0xC0 + n / 0x40).toUInt8 = .followed 1 0x80 0xBF := by
  rw [lead_eq, toNat_toUInt8 (by omega)]
  simp (disch := omega) only [if_pos, if_neg]

/-- The second byte keeps short spellings and surrogates out. -/
private theorem leads_three (long : 0x800 ≤ n) (short : n < 0xD800 ∨ 0xDFFF < n ∧ n < 0x10000) :
    ∃ low high, lead (0xE0 + n / 0x1000).toUInt8 = .followed 2 low high ∧
      low.toNat ≤ 0x80 + n / 0x40 % 0x40 ∧ 0x80 + n / 0x40 % 0x40 ≤ high.toNat := by
  rw [lead_eq, toNat_toUInt8 (by omega)]
  by_cases least : n < 0x1000
  · simp (disch := omega) only [if_pos, if_neg]
    exact ⟨_, _, rfl, by simp; omega, by simp; omega⟩
  by_cases surrogates : 0xD000 ≤ n ∧ n < 0xE000
  · simp (disch := omega) only [if_pos, if_neg]
    exact ⟨_, _, rfl, by simp, by simp; omega⟩
  · simp (disch := omega) only [if_pos, if_neg]
    exact ⟨_, _, rfl, by simp, by simp; omega⟩

private theorem leads_four (long : 0x10000 ≤ n) (short : n < 0x110000) :
    ∃ low high, lead (0xF0 + n / 0x40000).toUInt8 = .followed 3 low high ∧
      low.toNat ≤ 0x80 + n / 0x1000 % 0x40 ∧ 0x80 + n / 0x1000 % 0x40 ≤ high.toNat := by
  rw [lead_eq, toNat_toUInt8 (by omega)]
  by_cases least : n < 0x40000
  · simp (disch := omega) only [if_pos, if_neg]
    exact ⟨_, _, rfl, by simp; omega, by simp; omega⟩
  by_cases most : 0x100000 ≤ n
  · simp (disch := omega) only [if_pos, if_neg]
    exact ⟨_, _, rfl, by simp, by simp; omega⟩
  · simp (disch := omega) only [if_pos, if_neg]
    exact ⟨_, _, rfl, by simp, by simp; omega⟩

private theorem isTail_toUInt8 (m : Nat) : isTail (0x80 + m % 0x40).toUInt8 = true := by
  rw [isTail_eq, toNat_toUInt8 (by omega), decide_eq_true_eq]
  omega

private theorem payload_toUInt8 (m : Nat) : payload (0x80 + m % 0x40).toUInt8 = m % 0x40 := by
  rw [payload, toNat_toUInt8 (by omega)]
  omega

private theorem toUInt8_between (m : Nat) (least : low.toNat ≤ 0x80 + m % 0x40)
    (most : 0x80 + m % 0x40 ≤ high.toNat) :
    low ≤ (0x80 + m % 0x40).toUInt8 ∧ (0x80 + m % 0x40).toUInt8 ≤ high := by
  rw [UInt8.le_iff_toNat_le, UInt8.le_iff_toNat_le, toNat_toUInt8 (by omega)]
  exact ⟨least, most⟩

private theorem segments_encodeChar (c : Char) (rest : List UInt8) :
    segments (encodeChar c ++ rest) = .char c :: segments rest := by
  have bound := toNat_lt c
  have own : Char.ofNat c.toNat = c := Char.ofNat_toNat c
  unfold encodeChar
  generalize c.toNat = n at bound own
  subst own
  dsimp only
  split
  · rename_i short
    have first : n.toUInt8.toNat = n := toNat_toUInt8 (by omega)
    have leads : lead n.toUInt8 = .alone := by rw [lead_eq, first, if_pos short]
    rw [List.singleton_append, segments_one leads, first]
  split
  · rename_i long short
    have second : (0x80 : UInt8) ≤ (0x80 + n % 0x40).toUInt8 ∧ (0x80 + n % 0x40).toUInt8 ≤ 0xBF :=
      toUInt8_between n (by simp) (by simp; omega)
    rw [List.cons_append, List.singleton_append,
      segments_two (leads_two (by omega) short) second.1 second.2, payload_toUInt8,
      toNat_toUInt8 (by omega)]
    congr 3
    omega
  split
  · rename_i long short
    obtain ⟨low, high, leads, least, most⟩ := leads_three (n := n) (by omega) (by omega)
    have second := toUInt8_between _ least most
    rw [List.cons_append, List.cons_append, List.singleton_append,
      segments_three leads second.1 second.2 (isTail_toUInt8 n), payload_toUInt8, payload_toUInt8,
      toNat_toUInt8 (by omega)]
    congr 3
    omega
  · rename_i long
    obtain ⟨low, high, leads, least, most⟩ := leads_four (n := n) (by omega) (by omega)
    have second := toUInt8_between _ least most
    rw [List.cons_append, List.cons_append, List.cons_append, List.singleton_append,
      segments_four leads second.1 second.2 (isTail_toUInt8 _) (isTail_toUInt8 n), payload_toUInt8,
      payload_toUInt8, payload_toUInt8, toNat_toUInt8 (by omega)]
    congr 3
    omega

theorem segments_encodeChars (cs : List Char) : segments (encodeChars cs) = cs.map .char := by
  induction cs with
  | nil => rfl
  | cons c rest ih => rw [encodeChars_cons, segments_encodeChar, ih, List.map_cons]

private theorem toNat_of_alone (leads : lead a = .alone) : a.toNat < 0x80 := by
  rw [lead_eq] at leads
  grind

private theorem bounds_of_followed (leads : lead a = .followed count low high) :
    0x80 ≤ low.toNat ∧ high.toNat ≤ 0xBF ∧
      (count = 1 ∧ 0xC2 ≤ a.toNat ∧ a.toNat < 0xE0 ∨
        count = 2 ∧ 0xE0 ≤ a.toNat ∧ a.toNat < 0xF0 ∧ (a.toNat = 0xE0 → 0xA0 ≤ low.toNat) ∧
          (a.toNat = 0xED → high.toNat ≤ 0x9F) ∨
        count = 3 ∧ 0xF0 ≤ a.toNat ∧ a.toNat ≤ 0xF4 ∧ (a.toNat = 0xF0 → 0x90 ≤ low.toNat) ∧
          (a.toNat = 0xF4 → high.toNat ≤ 0x8F)) := by
  rw [lead_eq] at leads
  repeat' split at leads
  all_goals cases leads
  all_goals simp
  all_goals omega

private theorem toNat_ofNat (valid : n < 0xD800 ∨ 0xDFFF < n ∧ n < 0x110000) : (Char.ofNat n).toNat = n := by
  rw [Char.ofNat, dif_pos valid]
  rfl

private theorem encodeChar_one (leads : lead a = .alone) : encodeChar (Char.ofNat a.toNat) = [a] := by
  have bound := toNat_of_alone leads
  simp only [encodeChar, toNat_ofNat (n := a.toNat) (by omega), if_pos bound]
  simp

private theorem encodeChar_two (leads : lead a = .followed 1 low high) (least : low ≤ b) (most : b ≤ high) :
    encodeChar (Char.ofNat (a.toNat % 0x20 * 0x40 + payload b)) = [a, b] := by
  have bounds := bounds_of_followed leads
  rw [UInt8.le_iff_toNat_le] at least most
  unfold payload
  have code := toNat_ofNat (n := a.toNat % 0x20 * 0x40 + b.toNat % 0x40) (by omega)
  simp only [encodeChar, code]
  simp (disch := omega) only [if_pos, if_neg, List.cons.injEq, ← UInt8.toNat_inj, toNat_toUInt8,
    and_true]
  omega

private theorem encodeChar_three {third : UInt8} (leads : lead a = .followed 2 low high) (least : low ≤ b)
    (most : b ≤ high) (tail : isTail third = true) :
    encodeChar (Char.ofNat (a.toNat % 0x10 * 0x1000 + payload b * 0x40 + payload third)) =
      [a, b, third] := by
  have bounds := bounds_of_followed leads
  rw [UInt8.le_iff_toNat_le] at least most
  rw [isTail_eq, decide_eq_true_eq] at tail
  unfold payload
  have code := toNat_ofNat
    (n := a.toNat % 0x10 * 0x1000 + b.toNat % 0x40 * 0x40 + third.toNat % 0x40) (by omega)
  simp only [encodeChar, code]
  simp (disch := omega) only [if_pos, if_neg, List.cons.injEq, ← UInt8.toNat_inj, toNat_toUInt8,
    and_true]
  omega

private theorem encodeChar_four {third fourth : UInt8} (leads : lead a = .followed 3 low high)
    (least : low ≤ b) (most : b ≤ high) (tail : isTail third = true) (last : isTail fourth = true) :
    encodeChar (Char.ofNat (a.toNat % 0x08 * 0x40000 + payload b * 0x1000 + payload third * 0x40 +
      payload fourth)) = [a, b, third, fourth] := by
  have bounds := bounds_of_followed leads
  rw [UInt8.le_iff_toNat_le] at least most
  rw [isTail_eq, decide_eq_true_eq] at tail last
  unfold payload
  have code := toNat_ofNat
    (n := a.toNat % 0x08 * 0x40000 + b.toNat % 0x40 * 0x1000 + third.toNat % 0x40 * 0x40 +
      fourth.toNat % 0x40) (by omega)
  simp only [encodeChar, code]
  simp (disch := omega) only [if_neg, List.cons.injEq, ← UInt8.toNat_inj, toNat_toUInt8,
    and_true]
  omega

private theorem encodeChars_of_char {value : Char} {more : List Segment} {read : List UInt8}
    (split : .char value :: more = cs.map Segment.char) (spelled : encodeChar value = read)
    (others : ∀ {cs : List Char}, more = cs.map .char → encodeChars cs = rest) :
    encodeChars cs = read ++ rest := by
  cases cs with
  | nil => cases split
  | cons c cs =>
      obtain ⟨first, same⟩ := List.cons.inj split
      cases first
      rw [encodeChars_cons, spelled, others same]

private theorem encodeChars_of_segments (split : segments bytes = cs.map .char) : encodeChars cs = bytes := by
  fun_induction segments bytes generalizing cs with
  | case1 => rw [List.map_eq_nil_iff.mp split.symm, encodeChars_nil]
  | case2 a rest leads ih => exact encodeChars_of_char split (encodeChar_one leads) ih
  | case5 a low high b rest within leads ih =>
      simp only [Bool.and_eq_true, decide_eq_true_eq] at within
      exact encodeChars_of_char split (encodeChar_two leads within.1 within.2) ih
  | case7 a low high b within third rest tail leads _ ih =>
      simp only [Bool.and_eq_true, decide_eq_true_eq] at within
      exact encodeChars_of_char split (encodeChar_three leads within.1 within.2 tail) ih
  | case9 a count low high leads b within _ third tail _ fourth rest last ih =>
      simp only [Bool.and_eq_true, decide_eq_true_eq] at within
      obtain rfl : count = 3 := by
        have bounds := bounds_of_followed leads
        omega
      exact encodeChars_of_char split (encodeChar_four leads within.1 within.2 tail last) ih
  | _ => exact absurd split (by cases cs <;> simp)

private theorem collect_map_char (index : Nat) (cs : List Char) : collect index (cs.map .char) = .ok cs := by
  induction cs generalizing index with
  | nil => rfl
  | cons c rest ih => rw [List.map_cons, collect, ih]; rfl

private theorem eq_of_collect {index : Nat} {segments : List Segment}
    (read : collect index segments = .ok cs) :
    segments = cs.map .char := by
  induction segments generalizing index cs with
  | nil => cases read; rfl
  | cons segment rest ih =>
      cases segment with
      | invalid length => cases read
      | truncated length => cases read
      | char value =>
          rw [collect] at read
          cases others : collect (index + (encodeChar value).length) rest with
          | error defect => rw [others] at read; cases read
          | ok read' =>
              rw [others] at read
              cases read
              rw [ih others, List.map_cons]

theorem decodeChars_eq_ok_iff : decodeChars bytes = .ok cs ↔ encodeChars cs = bytes := by
  constructor
  · exact fun read => encodeChars_of_segments (eq_of_collect read)
  · rintro rfl
    rw [decodeChars, segments_encodeChars, collect_map_char]

theorem decode_eq_ok_iff {text : String} : decode bytes = .ok text ↔ encode text = bytes := by
  rw [encode, ← decodeChars_eq_ok_iff, decode]
  cases decodeChars bytes with
  | error defect => simp [Except.map]
  | ok cs => simp [Except.map, ← String.toList_inj]

theorem lossy_encodeChars (cs : List Char) : lossy (encodeChars cs) = String.ofList cs := by
  rw [lossy, segments_encodeChars, List.map_map]
  exact congrArg String.ofList (List.map_id cs)

@[simp] theorem lossy_encode (text : String) : lossy (encode text) = text := by
  rw [encode, lossy_encodeChars, String.ofList_toList]

end ExchangeTap.Utf8
