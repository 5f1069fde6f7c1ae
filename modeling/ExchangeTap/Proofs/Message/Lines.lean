import ExchangeTap.Message.Replay
import ExchangeTap.Proofs.Json.Lexing
import ExchangeTap.Proofs.Text.Utf8

namespace ExchangeTap

namespace Json

variable {c : Char} {first rest : List Char}

def Plain (text : List Char) : Prop :=
  ∀ c ∈ text, 32 ≤ c.toNat

instance (text : List Char) : Decidable (Plain text) :=
  List.decidableBAll _ _

private theorem plain_cons : Plain (c :: rest) ↔ 32 ≤ c.toNat ∧ Plain rest :=
  List.forall_mem_cons

private theorem plain_append : Plain (first ++ rest) ↔ Plain first ∧ Plain rest :=
  List.forall_mem_append

private theorem plain_hexDigit {digit : Nat} (small : digit < 16) : 32 ≤ (hexDigit digit).toNat := by
  revert digit
  decide

private theorem plain_escape (c : Char) : Plain (escape c) := by
  unfold escape
  -- A backslash and a letter for each of the characters that have one.
  iterate 7 (split; next => decide)
  split
  next control =>
    have high := plain_hexDigit (show c.toNat / 16 < 16 by omega)
    have low := plain_hexDigit (show c.toNat % 16 < 16 by omega)
    simp only [plain_cons, high, low]
    decide
  next visible => exact plain_cons.mpr ⟨Nat.not_lt.mp visible, nofun⟩

private theorem plain_quoted (text : String) : Plain (quoted text) := by
  have escaped : Plain (text.toList.flatMap escape) := by
    intro c here
    obtain ⟨d, -, among⟩ := List.mem_flatMap.mp here
    exact plain_escape d c among
  rw [quoted, plain_append, plain_cons]
  exact ⟨⟨by decide, escaped⟩, by decide⟩

private theorem plain_integer (n : Int) : Plain (Digits.integer n) := by
  have digits : Plain (Digits.write n.natAbs) := by
    intro c here
    have least : 48 ≤ c.toNat := (Digits.isDecimal_of_mem_write here).1
    omega
  unfold Digits.integer
  split
  next => exact plain_cons.mpr ⟨by decide, digits⟩
  next => exact digits

mutual

theorem plain_compactChars : ∀ (value : Json), Exact value.nodes → Plain value.compactChars
  | .null, _ => by decide
  | .boolean true, _ => by decide
  | .boolean false, _ => by decide
  | .number (.integer n), _ => plain_integer n
  | .number (.float x), exact => absurd (List.mem_singleton_self _) (exact.floatless x)
  | .text value, _ => plain_quoted value
  | .list items, exact => by
      rw [compactChars, plain_cons]
      exact ⟨by decide, plain_compactItems items (exact.mono (by simp))⟩
  | .object members, exact => by
      rw [compactChars, plain_cons]
      exact ⟨by decide, plain_compactMembers members (exact.mono (by simp))⟩

private theorem plain_compactItems :
    ∀ (items : List Json), Exact (itemNodes items) → Plain (compactItems items)
  | [], _ => by decide
  | [last], exact => by
      rw [compactItems, plain_append]
      exact ⟨plain_compactChars last (exact.mono (by simp)), by decide⟩
  | item :: next :: rest, exact => by
      rw [compactItems, plain_append, plain_cons]
      · exact ⟨plain_compactChars item (exact.mono (by simp)), by decide,
          plain_compactItems (next :: rest) (exact.mono (by simp))⟩
      · nofun

private theorem plain_compactMembers : ∀ (members : List (String × Json)), Exact (memberNodes members) →
    Plain (compactMembers members)
  | [], _ => by decide
  | [(name, last)], exact => by
      have inner := plain_compactChars last (exact.mono (by simp))
      rw [compactMembers, plain_append, plain_append, plain_cons]
      exact ⟨⟨plain_quoted name, by decide, inner⟩, by decide⟩
  | (name, value) :: next :: rest, exact => by
      have inner := plain_compactChars value (exact.mono (by simp))
      have others := plain_compactMembers (next :: rest) (exact.mono (by simp))
      rw [compactMembers, plain_append, plain_append, plain_cons, plain_cons]
      · exact ⟨⟨plain_quoted name, by decide, inner⟩, by decide, others⟩
      · nofun

end

end Json

namespace Utf8

theorem least_of_encodeChar {c : Char} (plain : 32 ≤ c.toNat) :
    ∀ byte ∈ encodeChar c, 32 ≤ byte.toNat := by
  have bound := toNat_lt c
  have byte : ∀ {n : Nat}, 32 ≤ n → n < 256 → 32 ≤ n.toUInt8.toNat := by
    intro n least small
    rwa [toNat_toUInt8 small]
  unfold encodeChar
  dsimp only
  split
  next => simpa using byte plain (by omega)
  next =>
    split
    next => simpa using ⟨byte (by omega) (by omega), byte (by omega) (by omega)⟩
    next =>
      split
      next =>
        simpa using ⟨byte (by omega) (by omega), byte (by omega) (by omega), byte (by omega) (by omega)⟩
      next =>
        simpa using ⟨byte (by omega) (by omega), byte (by omega) (by omega), byte (by omega) (by omega),
          byte (by omega) (by omega)⟩

theorem least_of_encodeChars {cs : List Char} (plain : Json.Plain cs) :
    ∀ byte ∈ encodeChars cs, 32 ≤ byte.toNat := by
  intro byte here
  obtain ⟨c, among, encoded⟩ := List.mem_flatMap.mp here
  exact least_of_encodeChar (plain c among) byte encoded

end Utf8

namespace Replay

theorem lines_go_append {word : List UInt8} (unbroken : 10 ∉ word) (line rest : List UInt8) :
    lines.go line (word ++ rest) = lines.go (word.reverse ++ line) rest := by
  induction word generalizing line with
  | nil => rfl
  | cons byte word ih =>
      have other : byte ≠ 10 := fun same => unbroken (by simp [same])
      simp only [List.cons_append, lines.go, if_neg other]
      rw [ih fun here => unbroken (by simp [here])]
      simp

/-- A line without the mark in front of its end. -/
def bare [DecidableEq α] (mark : α) (line : List α) : List α :=
  if line.getLast? = some mark then line.dropLast else line

theorem bare_concat [DecidableEq α] (mark : α) (line : List α) : bare mark (line ++ [mark]) = line := by
  simp [bare]

private theorem bare_of_not_mem [DecidableEq α] {mark : α} {line : List α} (clean : mark ∉ line) :
    bare mark line = line :=
  if_neg fun last => clean (List.mem_of_getLast? last)

theorem lines_feed {word : List UInt8} (unbroken : 10 ∉ word) (rest : List UInt8) :
    lines (word ++ 10 :: rest) = bare 13 word :: lines rest := by
  rw [lines, lines_go_append unbroken, List.append_nil]
  simp only [lines.go, if_true]
  cases reversed : word.reverse with
  | nil => rw [List.reverse_eq_nil_iff.mp reversed]; rfl
  | cons last shorter =>
      have same : word = shorter.reverse ++ [last] := by
        rw [← List.reverse_cons, ← reversed, List.reverse_reverse]
      subst same
      by_cases mark : last = 13
      · rw [mark, bare_concat]
        rfl
      · simp [bare, mark, lines]

private theorem lines_cons {word : List UInt8} (unbroken : 10 ∉ word) (clean : 13 ∉ word)
    (rest : List UInt8) :
    lines (word ++ 10 :: rest) = word :: lines rest := by
  rw [lines_feed unbroken, bare_of_not_mem clean]

theorem lines_flatMap {words : List (List UInt8)} (unbroken : ∀ word ∈ words, 10 ∉ word)
    (clean : ∀ word ∈ words, 13 ∉ word) : lines (words.flatMap (· ++ [10])) = words := by
  induction words with
  | nil => rfl
  | cons word rest ih =>
      rw [List.flatMap_cons, List.append_assoc, List.singleton_append,
        lines_cons (unbroken word (by simp)) (clean word (by simp)),
        ih (fun word here => unbroken word (by simp [here])) fun word here => clean word (by simp [here])]

end Replay

end ExchangeTap
