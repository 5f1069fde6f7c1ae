import ExchangeTap.Text.Base64

namespace ExchangeTap.Base64

variable {n : Nat}

private theorem value?_symbol (small : n < 64) : value? (symbol n) = some n := by
  revert n
  decide

private theorem symbol_ne_padding (small : n < 64) : symbol n ≠ '=' := by
  revert n
  decide

private theorem toUInt8_of_eq {byte : UInt8} (same : n = byte.toNat) : n.toUInt8 = byte := by
  subst same
  exact UInt8.ofNat_toNat

private theorem decodeChars_encodeBytes (bytes : List UInt8) :
    decodeChars (encodeBytes bytes) = some bytes := by
  fun_induction encodeBytes bytes with
  | case1 => rfl
  | case2 a =>
      have first := a.toNat_lt
      have one : a.toNat / 4 < 64 := by omega
      have two : a.toNat % 4 * 16 < 64 := by omega
      have stray : a.toNat % 4 * 16 % 16 = 0 := by omega
      have whole : (a.toNat / 4 * 4 + a.toNat % 4 * 16 / 16).toUInt8 = a := toUInt8_of_eq (by omega)
      simp only [decodeChars, value?_symbol one, value?_symbol two, and_self, if_true, stray, whole]
  | case3 a b =>
      have first := a.toNat_lt
      have second := b.toNat_lt
      have one : a.toNat / 4 < 64 := by omega
      have two : a.toNat % 4 * 16 + b.toNat / 16 < 64 := by omega
      have three : b.toNat % 16 * 4 < 64 := by omega
      have stray : b.toNat % 16 * 4 % 4 = 0 := by omega
      have start : (a.toNat / 4 * 4 + (a.toNat % 4 * 16 + b.toNat / 16) / 16).toUInt8 = a :=
        toUInt8_of_eq (by omega)
      have ending : ((a.toNat % 4 * 16 + b.toNat / 16) % 16 * 16 + b.toNat % 16 * 4 / 4).toUInt8 = b :=
        toUInt8_of_eq (by omega)
      simp only [decodeChars, value?_symbol one, value?_symbol two, value?_symbol three,
        symbol_ne_padding three, false_and, if_false, if_true, stray, start, ending]
  | case4 a b c rest ih =>
      have first := a.toNat_lt
      have second := b.toNat_lt
      have third := c.toNat_lt
      have one : a.toNat / 4 < 64 := by omega
      have two : a.toNat % 4 * 16 + b.toNat / 16 < 64 := by omega
      have three : b.toNat % 16 * 4 + c.toNat / 64 < 64 := by omega
      have four : c.toNat % 64 < 64 := by omega
      have start : (a.toNat / 4 * 4 + (a.toNat % 4 * 16 + b.toNat / 16) / 16).toUInt8 = a :=
        toUInt8_of_eq (by omega)
      have middle : ((a.toNat % 4 * 16 + b.toNat / 16) % 16 * 16 +
          (b.toNat % 16 * 4 + c.toNat / 64) / 4).toUInt8 = b := toUInt8_of_eq (by omega)
      have ending : ((b.toNat % 16 * 4 + c.toNat / 64) % 4 * 64 + c.toNat % 64).toUInt8 = c :=
        toUInt8_of_eq (by omega)
      simp only [decodeChars, value?_symbol one, value?_symbol two, value?_symbol three,
        value?_symbol four, symbol_ne_padding four, and_false, if_false, ih, start, middle, ending]

@[simp] theorem decode_encode (bytes : List UInt8) : decode (encode bytes) = some bytes := by
  rw [decode, encode, String.toList_ofList]
  exact decodeChars_encodeBytes bytes

end ExchangeTap.Base64
