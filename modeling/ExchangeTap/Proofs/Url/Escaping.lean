import ExchangeTap.Proofs.Text.Utf8
import ExchangeTap.Url.Percent

namespace ExchangeTap.Url

variable {c d : Char} {n : Nat} {text : List Char}

def isEscape (c : Char) : Bool :=
  c == '%' || ('0' ≤ c && c ≤ '9') || ('A' ≤ c && c ≤ 'F')

private theorem isEscape_hexDigit (small : n < 16) : isEscape (hexDigit n) = true := by
  revert n
  decide

private theorem encodeChar_hexDigit (small : n < 16) :
    Utf8.encodeChar (hexDigit n) = [(hexDigit n).toNat.toUInt8] := by
  revert n
  decide

theorem hexValue?_hexDigit (small : n < 16) : hexValue? (hexDigit n).toNat.toUInt8 = some n := by
  revert n
  decide

theorem isEscape_of_mem (here : c ∈ escapeAll text) : isEscape c = true := by
  obtain ⟨byte, -, within⟩ := List.mem_flatMap.mp here
  have bound := byte.toNat_lt
  simp only [escapeByte, List.mem_cons, List.not_mem_nil, or_false] at within
  rcases within with rfl | rfl | rfl
  · rfl
  · exact isEscape_hexDigit (by omega)
  · exact isEscape_hexDigit (by omega)

private theorem ne_of_mem_escapeAll (here : c ∈ escapeAll text) (other : isEscape d = false) : c ≠ d := by
  rintro rfl
  rw [isEscape_of_mem here] at other
  cases other

theorem notMem_escapeAll (other : isEscape c = false) : c ∉ escapeAll text := fun here =>
  ne_of_mem_escapeAll here other rfl

theorem escapeAll_ne_nil (some : text ≠ []) : escapeAll text ≠ [] := by
  obtain ⟨c, rest, rfl⟩ := List.exists_cons_of_ne_nil some
  unfold escapeAll
  cases bytes : Utf8.encodeChars (c :: rest) with
  | nil =>
      have read := Utf8.decodeChars_eq_ok_iff.mpr bytes
      cases read
  | cons byte bytes => simp [escapeByte]

private theorem decode_escapeByte (byte : UInt8) (rest : List UInt8) :
    decode (Utf8.encodeChars (escapeByte byte) ++ rest) = byte :: decode rest := by
  have bound := byte.toNat_lt
  have percent : Utf8.encodeChar '%' = [37] := by decide
  have written : Utf8.encodeChars (escapeByte byte) =
      [37, (hexDigit (byte.toNat / 16)).toNat.toUInt8, (hexDigit (byte.toNat % 16)).toNat.toUInt8] := by
    simp only [escapeByte, Utf8.encodeChars_cons, Utf8.encodeChars_nil, percent,
      encodeChar_hexDigit (show byte.toNat / 16 < 16 by omega),
      encodeChar_hexDigit (show byte.toNat % 16 < 16 by omega)]
    rfl
  have value : byte.toNat / 16 * 16 + byte.toNat % 16 = byte.toNat := by omega
  rw [written]
  simp only [List.cons_append, List.nil_append, decode, if_true,
    hexValue?_hexDigit (show byte.toNat / 16 < 16 by omega),
    hexValue?_hexDigit (show byte.toNat % 16 < 16 by omega), value]
  simp

private theorem decode_flatMap_escapeByte (bytes : List UInt8) :
    decode (Utf8.encodeChars (bytes.flatMap escapeByte)) = bytes := by
  induction bytes with
  | nil => rfl
  | cons byte rest ih => rw [List.flatMap_cons, Utf8.encodeChars_append, decode_escapeByte, ih]

theorem decode_escapeAll (text : List Char) :
    decode (Utf8.encodeChars (escapeAll text)) = Utf8.encodeChars text :=
  decode_flatMap_escapeByte _

end ExchangeTap.Url
