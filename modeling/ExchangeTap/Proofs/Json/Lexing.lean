import ExchangeTap.Json.Token
import ExchangeTap.Json.Writer
import ExchangeTap.Proofs.Json.Nodes
import ExchangeTap.Proofs.Text.Digits

namespace ExchangeTap.Json

variable {c : Char} {n : Int} {token : Token} {word rest digits : List Char}

private theorem tokensAfter_append (word rest : List Char) :
    tokensAfter word.length (word ++ rest) = tokensAfter 0 rest := by
  induction word with
  | nil => rfl
  | cons c word ih => exact ih

private theorem tokensAfter_of_scan (solid : isSpace c = false)
    (scanned : scan c (word ++ rest) = ⟨token, word.length + 1⟩)
    (whole : ∀ quoted defect, token ≠ .broken quoted defect) :
    tokensAfter 0 (c :: (word ++ rest)) = token :: tokensAfter 0 rest := by
  rw [tokensAfter]
  simp only [solid, scanned, Bool.false_eq_true, if_false]
  cases token with
  | broken quoted defect => exact absurd rfl (whole quoted defect)
  | _ => exact congrArg _ (tokensAfter_append word rest)

def Delimits (rest : List Char) : Prop :=
  ∀ c ∈ rest.head?, c = ',' ∨ c = ']' ∨ c = '\x7d' ∨ c = '\n'

theorem delimits_nil : Delimits [] := by
  simp [Delimits]

theorem isDigit_iff : isDigit c = true ↔ Digits.IsDecimal c := by
  simp [isDigit, Digits.IsDecimal]

private theorem isDigit_of_delimits (delimits : Delimits (c :: rest)) : isDigit c = false := by
  rcases delimits c (by simp) with rfl | rfl | rfl | rfl <;> decide

private theorem scanDigits_append (decimal : ∀ c ∈ digits, Digits.IsDecimal c) (some : digits ≠ [])
    (delimits : Delimits rest) : scanDigits (digits ++ rest) = .ok (digits, rest) := by
  have taken : (digits ++ rest).takeWhile isDigit = digits := by
    rw [List.takeWhile_append_of_pos fun c here => isDigit_iff.mpr (decimal c here)]
    cases rest with
    | nil => simp
    | cons c rest => simp [isDigit_of_delimits delimits]
  have dropped : (digits ++ rest).dropWhile isDigit = rest := by
    rw [List.dropWhile_append_of_pos fun c here => isDigit_iff.mpr (decimal c here)]
    cases rest with
    | nil => simp
    | cons c rest => simp [isDigit_of_delimits delimits]
  unfold scanDigits
  rw [taken, dropped]
  cases digits with
  | nil => exact absurd rfl some
  | cons digit more => rfl

private theorem scanWhole_write (n : Nat) (delimits : Delimits rest) :
    scanWhole (Digits.write n ++ rest) = .ok (Digits.write n, rest) := by
  have digits := scanDigits_append (fun c here => Digits.isDecimal_of_mem_write (n := n) here)
    (Digits.write_ne_nil n) delimits
  unfold scanWhole
  split
  · rename_i second more behind zero
    rw [digits] at zero
    cases Digits.eq_nil_of_write_zero (congrArg Prod.fst (Except.ok.inj zero))
  · exact digits

private theorem scanFraction_of_delimits (delimits : Delimits rest) : scanFraction rest = .ok ([], rest) := by
  cases rest with
  | nil => rfl
  | cons c rest => rcases delimits c (by simp) with rfl | rfl | rfl | rfl <;> rfl

private theorem scanPower_of_delimits (delimits : Delimits rest) : scanPower rest = .ok (none, 0) := by
  cases rest with
  | nil => rfl
  | cons c rest => rcases delimits c (by simp) with rfl | rfl | rfl | rfl <;> rfl

private theorem head_write_ne_minus (n : Nat) : (Digits.write n ++ rest).head? ≠ some '-' := by
  cases digits : Digits.write n with
  | nil => exact absurd digits (Digits.write_ne_nil n)
  | cons digit more =>
      intro minus
      cases Option.some.inj minus
      exact Digits.write_ne_minus n more digits

private theorem scanNumeral_integer (n : Int) (delimits : Delimits rest) :
    scanNumeral (Digits.integer n ++ rest) =
      .ok (⟨decide (n < 0), Digits.write n.natAbs, [], none⟩, (Digits.integer n).length) := by
  have whole := scanWhole_write n.natAbs delimits
  have fraction := scanFraction_of_delimits delimits
  have power := scanPower_of_delimits delimits
  by_cases negative : n < 0
  · have written : Digits.integer n = '-' :: Digits.write n.natAbs := if_pos negative
    simp only [scanNumeral, written, List.cons_append, List.tail_cons]
    simp [whole, fraction, power, negative, bind, Except.bind, pure, Except.pure, Nat.add_comm]
  · have written : Digits.integer n = Digits.write n.natAbs := if_neg negative
    have minus : ((Digits.write n.natAbs ++ rest).head? == some '-') = false :=
      beq_eq_false_iff_ne.mpr (head_write_ne_minus n.natAbs)
    simp only [scanNumeral, written, minus]
    simp [whole, fraction, power, negative, bind, Except.bind, pure, Except.pure]

namespace Numeral

private theorem absorb_eq_read {bound start : Nat} (within : Digits.read start digits < bound) :
    absorb bound start digits = (Digits.read start digits, []) := by
  induction digits generalizing start with
  | nil => rfl
  | cons digit rest ih =>
      have next : start * 10 + Digits.value digit < bound :=
        Nat.lt_of_le_of_lt (Digits.le_read _ rest) within
      simp only [absorb, if_pos next]
      exact ih within

private theorem value_integer (least : -(2 ^ 63) ≤ n) (most : n < 2 ^ 64) :
    value ⟨decide (n < 0), Digits.write n.natAbs, [], none⟩ = some (.integer n) := by
  have read := Digits.read_write n.natAbs
  have absorbed : absorb (2 ^ 64) 0 (Digits.write n.natAbs) = (n.natAbs, []) := by
    rw [absorb_eq_read (by rw [read]; omega), read]
  simp only [value, absorbed, absorb, List.isEmpty_nil, Bool.and_self, if_true, integer]
  by_cases negative : n < 0
  · have small : 0 < n.natAbs ∧ n.natAbs ≤ 2 ^ 63 := by omega
    have back : -(n.natAbs : Int) = n := by omega
    simp only [decide_eq_true negative, Bool.not_true, Bool.false_eq_true, if_false, if_pos small,
      back]
  · have back : (n.natAbs : Int) = n := by omega
    simp only [decide_eq_false negative, Bool.not_false, if_true, back]

end Numeral

private theorem scan_numeral {numeral : Numeral} {length : Nat} (starts : c = '-' ∨ Digits.IsDecimal c)
    (read : scanNumeral (c :: rest) = .ok (numeral, length)) :
    isSpace c = false ∧ scan c rest = ⟨.number numeral.value, length⟩ := by
  have differs : ∀ d : Char, ¬(d = '-' ∨ '0' ≤ d ∧ d ≤ '9') → c ≠ d := by
    rintro d other rfl
    exact other starts
  have isNumeral : c = '-' ∨ isDigit c = true := starts.imp_right isDigit_iff.mpr
  constructor
  · simp [isSpace, differs ' ' (by decide), differs '\t' (by decide), differs '\n' (by decide),
      differs '\r' (by decide)]
  · simp [scan, differs '[' (by decide), differs ']' (by decide), differs '\x7b' (by decide),
      differs '\x7d' (by decide), differs ',' (by decide), differs ':' (by decide),
      differs '"' (by decide), differs 'n' (by decide), differs 't' (by decide),
      differs 'f' (by decide), isNumeral, read]

private theorem starts_integer {n : Int} (written : Digits.integer n = c :: word) :
    c = '-' ∨ Digits.IsDecimal c := by
  unfold Digits.integer at written
  split at written
  · exact .inl (List.cons.inj written).1.symm
  · exact .inr (Digits.isDecimal_of_mem_write (n := n.natAbs) (by simp [written]))

theorem tokensAfter_integer (least : -(2 ^ 63) ≤ n) (most : n < 2 ^ 64) (delimits : Delimits rest) :
    tokensAfter 0 (Digits.integer n ++ rest) = .number (some (.integer n)) :: tokensAfter 0 rest := by
  have read := scanNumeral_integer n delimits
  cases written : Digits.integer n with
  | nil =>
      refine absurd written ?_
      unfold Digits.integer
      split <;> simp [Digits.write_ne_nil]
  | cons c word =>
      rw [written] at read
      obtain ⟨solid, scanned⟩ := scan_numeral (starts_integer written) read
      rw [Numeral.value_integer least most] at scanned
      exact tokensAfter_of_scan solid scanned (by simp)

theorem hexValue?_hexDigit {digit : Nat} (small : digit < 16) : hexValue? (hexDigit digit) = some digit := by
  revert digit
  decide

private theorem length_le_encodeChars (cs : List Char) : cs.length ≤ (Utf8.encodeChars cs).length := by
  induction cs with
  | nil => simp
  | cons c rest ih =>
      have some : 0 < (Utf8.encodeChar c).length := by
        unfold Utf8.encodeChar
        dsimp only
        repeat' split
        all_goals simp
      rw [Utf8.encodeChars_cons, List.length_append, List.length_cons]
      omega

private theorem hexEscape_control {code : Nat} (small : code < 32) (rest : List Char) :
    hexEscape ('0' :: '0' :: hexDigit (code / 16) :: hexDigit (code % 16) :: rest) = .unit code := by
  have enough := length_le_encodeChars ['0', '0', hexDigit (code / 16), hexDigit (code % 16)]
  have whole : ¬(Utf8.encodeChars ['0', '0', hexDigit (code / 16), hexDigit (code % 16)]).length < 4 :=
    Nat.not_lt.mpr enough
  have zero : hexValue? '0' = some 0 := by decide
  simp only [hexEscape, List.take_succ_cons, List.take_zero, if_neg whole, zero,
    hexValue?_hexDigit (show code / 16 < 16 by omega),
    hexValue?_hexDigit (show code % 16 < 16 by omega)]
  congr 1
  omega

private theorem scanText_escape (s : TextState) (c : Char) (rest : List Char) :
    scanText s (escape c ++ rest) = scanText (s.push c (escape c).length) rest := by
  have own : Char.ofNat c.toNat = c := Char.ofNat_toNat c
  unfold escape
  split
  · rename_i same; subst same; simp [scanText, simpleEscape?]
  split
  · rename_i same; subst same; simp [scanText, simpleEscape?]
  split
  · rename_i same; rw [same] at own; subst own; simp [scanText, simpleEscape?]
  split
  · rename_i same; rw [same] at own; subst own; simp [scanText, simpleEscape?]
  split
  · rename_i same; subst same; simp [scanText, simpleEscape?]
  split
  · rename_i same; subst same; simp [scanText, simpleEscape?]
  split
  · rename_i same; subst same; simp [scanText, simpleEscape?]
  split
  · rename_i control
    have alone : isTrailing c.toNat = false ∧ isLeading c.toNat = false := by
      simp [isTrailing, isLeading]
      omega
    simp [scanText, hexEscape_control control, alone, own]
  · rename_i quote backslash _ _ _ _ _ visible
    rw [List.singleton_append, scanText]
    · simp [visible]
    · exact quote
    · exact backslash

private theorem scanText_quoted (s : TextState) (paired : s.paired = true) (cs rest : List Char) :
    scanText s (cs.flatMap escape ++ '"' :: rest) =
      ⟨.text (some (String.ofList (s.read.reverse ++ cs))), s.length + (cs.flatMap escape).length + 1⟩ := by
  induction cs generalizing s with
  | nil => simp [scanText, paired]
  | cons c cs ih =>
      rw [List.flatMap_cons, List.append_assoc, scanText_escape, ih (s.push c _) paired]
      simp [TextState.push, Nat.add_assoc]

theorem tokensAfter_quoted (text : String) (rest : List Char) :
    tokensAfter 0 (quoted text ++ rest) = .text (some text) :: tokensAfter 0 rest := by
  have scanned : scan '"' ((text.toList.flatMap escape ++ ['"']) ++ rest) =
      ⟨.text (some text), (text.toList.flatMap escape ++ ['"']).length + 1⟩ := by
    have inside := scanText_quoted ⟨[], true, 1⟩ rfl text.toList rest
    have opened : scan '"' ((text.toList.flatMap escape ++ ['"']) ++ rest) =
        scanText ⟨[], true, 1⟩ (text.toList.flatMap escape ++ '"' :: rest) := by
      simp [scan]
    rw [opened, inside]
    simp [Nat.add_comm]
  exact tokensAfter_of_scan (by decide) scanned (by simp)

mutual

/-- The tokens that spell a value. -/
def spelling : Json → List Token
  | .null => [.null]
  | .boolean value => [.boolean value]
  | .number value => [.number (some value)]
  | .text value => [.text (some value)]
  | .list items => .openList :: itemSpelling items
  | .object members => .openObject :: memberSpelling members
termination_by structural value => value

def itemSpelling : List Json → List Token
  | [] => [.closeList]
  | [last] => spelling last ++ [.closeList]
  | item :: rest => spelling item ++ .comma :: itemSpelling rest
termination_by structural items => items

def memberSpelling : List (String × Json) → List Token
  | [] => [.closeObject]
  | [(name, last)] => .text (some name) :: .colon :: spelling last ++ [.closeObject]
  | (name, value) :: rest =>
    .text (some name) :: .colon :: spelling value ++ .comma :: memberSpelling rest
termination_by structural members => members

end

section Marks

variable (rest : List Char)

@[simp] theorem tokensAfter_openList : tokensAfter 0 ('[' :: rest) = .openList :: tokensAfter 0 rest := rfl

@[simp] theorem tokensAfter_closeList : tokensAfter 0 (']' :: rest) = .closeList :: tokensAfter 0 rest := rfl

@[simp] theorem tokensAfter_openObject :
    tokensAfter 0 ('\x7b' :: rest) = .openObject :: tokensAfter 0 rest := rfl

@[simp] theorem tokensAfter_closeObject :
    tokensAfter 0 ('\x7d' :: rest) = .closeObject :: tokensAfter 0 rest := rfl

@[simp] theorem tokensAfter_comma : tokensAfter 0 (',' :: rest) = .comma :: tokensAfter 0 rest := rfl

@[simp] theorem tokensAfter_colon : tokensAfter 0 (':' :: rest) = .colon :: tokensAfter 0 rest := rfl

theorem tokensAfter_null :
    tokensAfter 0 ('n' :: 'u' :: 'l' :: 'l' :: rest) = .null :: tokensAfter 0 rest := rfl

theorem tokensAfter_true :
    tokensAfter 0 ('t' :: 'r' :: 'u' :: 'e' :: rest) = .boolean true :: tokensAfter 0 rest := rfl

theorem tokensAfter_false :
    tokensAfter 0 ('f' :: 'a' :: 'l' :: 's' :: 'e' :: rest) = .boolean false :: tokensAfter 0 rest :=
  rfl

end Marks

theorem delimits_comma (rest : List Char) : Delimits (',' :: rest) := by
  simp [Delimits]

private theorem delimits_closeList (rest : List Char) : Delimits (']' :: rest) := by
  simp [Delimits]

private theorem delimits_closeObject (rest : List Char) : Delimits ('\x7d' :: rest) := by
  simp [Delimits]

mutual

private theorem tokensAfter_compactChars : ∀ (value : Json) (rest : List Char), Exact value.nodes →
    Delimits rest → tokensAfter 0 (value.compactChars ++ rest) = value.spelling ++ tokensAfter 0 rest
  | .null, rest, _, _ => tokensAfter_null rest
  | .boolean true, rest, _, _ => tokensAfter_true rest
  | .boolean false, rest, _, _ => tokensAfter_false rest
  | .number (.integer n), rest, exact, delimits => by
      obtain ⟨least, most⟩ := exact.integers n (by simp)
      exact tokensAfter_integer least most delimits
  | .number (.float x), _, exact, _ => absurd (by simp) (exact.floatless x)
  | .text value, rest, _, _ => tokensAfter_quoted value rest
  | .list items, rest, exact, _ => by
      rw [compactChars, List.cons_append, tokensAfter_openList,
        tokensAfter_compactItems items rest (exact.mono (by simp)), spelling, List.cons_append]
  | .object members, rest, exact, _ => by
      rw [compactChars, List.cons_append, tokensAfter_openObject,
        tokensAfter_compactMembers members rest (exact.mono (by simp)), spelling,
        List.cons_append]

private theorem tokensAfter_compactItems : ∀ (items : List Json) (rest : List Char), Exact (itemNodes items) →
    tokensAfter 0 (compactItems items ++ rest) = itemSpelling items ++ tokensAfter 0 rest
  | [], rest, _ => tokensAfter_closeList rest
  | [last], rest, exact => by
      have inner := tokensAfter_compactChars last (']' :: rest) (exact.mono (by simp))
        (delimits_closeList rest)
      simpa [compactItems, itemSpelling] using inner
  | item :: next :: more, rest, exact => by
      have inner := tokensAfter_compactChars item (',' :: (compactItems (next :: more) ++ rest))
        (exact.mono (by simp)) (delimits_comma _)
      have others := tokensAfter_compactItems (next :: more) rest (exact.mono (by simp))
      rw [tokensAfter_comma, others] at inner
      simpa [compactItems, itemSpelling] using inner

private theorem tokensAfter_compactMembers : ∀ (members : List (String × Json)) (rest : List Char),
    Exact (memberNodes members) →
      tokensAfter 0 (compactMembers members ++ rest) = memberSpelling members ++ tokensAfter 0 rest
  | [], rest, _ => tokensAfter_closeObject rest
  | [(name, last)], rest, exact => by
      have inner := tokensAfter_compactChars last ('\x7d' :: rest)
        (exact.mono (by simp)) (delimits_closeObject rest)
      simpa [compactMembers, memberSpelling, tokensAfter_quoted] using inner
  | (name, value) :: next :: more, rest, exact => by
      have inner := tokensAfter_compactChars value (',' :: (compactMembers (next :: more) ++ rest))
        (exact.mono (by simp)) (delimits_comma _)
      have others := tokensAfter_compactMembers (next :: more) rest
        (exact.mono (by simp))
      rw [tokensAfter_comma, others] at inner
      simpa [compactMembers, memberSpelling, tokensAfter_quoted] using inner

end

theorem tokens_compactChars {value : Json} (exact : Exact value.nodes) :
    tokens value.compactChars = value.spelling := by
  have spelled := tokensAfter_compactChars value [] exact delimits_nil
  rw [List.append_nil] at spelled
  exact spelled.trans (List.append_nil _)

end ExchangeTap.Json
