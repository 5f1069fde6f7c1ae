import ExchangeTap.Proofs.Json.Lexing

namespace ExchangeTap.Json

variable {c : Char}

private theorem tokensAfter_space (space : isSpace c = true) (rest : List Char) :
    tokensAfter 0 (c :: rest) = tokensAfter 0 rest := by
  rw [tokensAfter]
  simp only [space, if_true]

private theorem tokensAfter_blank (rest : List Char) : tokensAfter 0 (' ' :: rest) = tokensAfter 0 rest :=
  tokensAfter_space (by decide) rest

private theorem tokensAfter_indentation (level : Nat) (rest : List Char) :
    tokensAfter 0 (indentation level ++ rest) = tokensAfter 0 rest := by
  have spaces : ∀ width, tokensAfter 0 (List.replicate width ' ' ++ rest) = tokensAfter 0 rest := by
    intro width
    induction width with
    | zero => rfl
    | succ width ih =>
        rw [List.replicate_succ, List.cons_append, tokensAfter_blank]
        exact ih
  rw [indentation, List.cons_append, tokensAfter_space (by decide)]
  exact spaces (2 * level)

private theorem delimits_indentation (level : Nat) (rest : List Char) :
    Delimits (indentation level ++ rest) := by
  simp [Delimits, indentation]

mutual

private theorem tokensAfter_prettyChars :
    ∀ (value : Json) (level : Nat) (rest : List Char), Exact value.nodes →
    Delimits rest → tokensAfter 0 (value.prettyChars level ++ rest) = value.spelling ++ tokensAfter 0 rest
  | .null, _, rest, _, _ => tokensAfter_null rest
  | .boolean true, _, rest, _, _ => tokensAfter_true rest
  | .boolean false, _, rest, _, _ => tokensAfter_false rest
  | .number (.integer n), _, rest, exact, delimits => by
      obtain ⟨least, most⟩ := exact.integers n (by simp)
      exact tokensAfter_integer least most delimits
  | .number (.float x), _, _, exact, _ => absurd (by simp) (exact.floatless x)
  | .text value, _, rest, _, _ => tokensAfter_quoted value rest
  | .list [], _, rest, _, _ => by
      rw [prettyChars, spelling, itemSpelling]
      rfl
  | .list (item :: items), level, rest, exact, _ => by
      rw [prettyChars, List.cons_append, tokensAfter_openList,
        tokensAfter_prettyItems (item :: items) (level + 1) rest (exact.mono (by simp)), spelling,
        List.cons_append]
      nofun
  | .object [], _, rest, _, _ => by
      rw [prettyChars, spelling, memberSpelling]
      rfl
  | .object (member :: members), level, rest, exact, _ => by
      rw [prettyChars, List.cons_append, tokensAfter_openObject,
        tokensAfter_prettyMembers (member :: members) (level + 1) rest (exact.mono (by simp)),
        spelling, List.cons_append]
      nofun

private theorem tokensAfter_prettyItems : ∀ (items : List Json) (level : Nat) (rest : List Char),
    Exact (itemNodes items) →
      tokensAfter 0 (prettyItems level items ++ rest) = itemSpelling items ++ tokensAfter 0 rest
  | [], level, rest, _ => by
      rw [prettyItems, List.append_assoc, tokensAfter_indentation]
      exact tokensAfter_closeList rest
  | [last], level, rest, exact => by
      have inner := tokensAfter_prettyChars last level (indentation (level - 1) ++ ']' :: rest)
        (exact.mono (by simp)) (delimits_indentation _ _)
      rw [tokensAfter_indentation, tokensAfter_closeList] at inner
      simpa [prettyItems, itemSpelling, tokensAfter_indentation] using inner
  | item :: next :: more, level, rest, exact => by
      have inner := tokensAfter_prettyChars item level (',' :: (prettyItems level (next :: more) ++ rest))
        (exact.mono (by simp)) (delimits_comma _)
      have others := tokensAfter_prettyItems (next :: more) level rest (exact.mono (by simp))
      rw [tokensAfter_comma, others] at inner
      simpa [prettyItems, itemSpelling, tokensAfter_indentation] using inner

private theorem tokensAfter_prettyMembers :
    ∀ (members : List (String × Json)) (level : Nat) (rest : List Char),
    Exact (memberNodes members) →
      tokensAfter 0 (prettyMembers level members ++ rest) = memberSpelling members ++ tokensAfter 0 rest
  | [], level, rest, _ => by
      rw [prettyMembers, List.append_assoc, tokensAfter_indentation]
      exact tokensAfter_closeObject rest
  | [(name, last)], level, rest, exact => by
      have inner := tokensAfter_prettyChars last level (indentation (level - 1) ++ '\x7d' :: rest)
        (exact.mono (by simp)) (delimits_indentation _ _)
      rw [tokensAfter_indentation, tokensAfter_closeObject] at inner
      simpa [prettyMembers, memberSpelling, tokensAfter_indentation, tokensAfter_quoted,
        tokensAfter_blank] using inner
  | (name, value) :: next :: more, level, rest, exact => by
      have inner := tokensAfter_prettyChars value level
        (',' :: (prettyMembers level (next :: more) ++ rest)) (exact.mono (by simp))
        (delimits_comma _)
      have others := tokensAfter_prettyMembers (next :: more) level rest
        (exact.mono (by simp))
      rw [tokensAfter_comma, others] at inner
      simpa [prettyMembers, memberSpelling, tokensAfter_indentation, tokensAfter_quoted,
        tokensAfter_blank] using inner

end

theorem tokens_prettyChars {value : Json} (exact : Exact value.nodes) (level : Nat) :
    tokens (value.prettyChars level) = value.spelling := by
  have spelled := tokensAfter_prettyChars value level [] exact delimits_nil
  rw [List.append_nil] at spelled
  exact spelled.trans (List.append_nil _)

end ExchangeTap.Json
