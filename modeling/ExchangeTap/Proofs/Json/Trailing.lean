import ExchangeTap.Json.Token

/-! A carriage return behind a text is a space, so the tokens stay the same; only where the text
breaks off inside of a lexeme can the defect be another one. -/

namespace ExchangeTap.Json

def Token.isBroken : Token → Bool
  | .broken _ _ => true
  | _ => false

inductive Lexeme.Alike : Lexeme → Lexeme → Prop where
  | same (lexeme : Lexeme) : Alike lexeme lexeme
  | broken {one other : Lexeme} (first : one.token.isBroken = true)
      (second : other.token.isBroken = true) : Alike one other

/-- Both readings fail, or they read the same and the second leaves a carriage return more. -/
inductive Leaves {α : Type} : Except Defect (α × List Char) → Except Defect (α × List Char) → Prop where
  | fails (one other : Defect) : Leaves (.error one) (.error other)
  | reads (value : α) (rest : List Char) : Leaves (.ok (value, rest)) (.ok (value, rest ++ ['\r']))

variable {α β : Type} {c : Char} {s : TextState} {digits rest : List Char} {value : Nat}

/-! Numbers. -/

private theorem Leaves.toOption_bind {one other : Except Defect (α × List Char)}
    {next : α × List Char → Except Defect β} (leaves : Leaves one other)
    (same : ∀ value rest,
      (next (value, rest ++ ['\r'])).toOption = (next (value, rest)).toOption) :
    (other >>= next).toOption = (one >>= next).toOption := by
  cases leaves with
  | fails => rfl
  | reads value rest => exact same value rest

private theorem toOption_bind {one other : Except Defect α} {next : α → Except Defect β}
    (same : other.toOption = one.toOption) :
    (other >>= next).toOption = (one >>= next).toOption := by
  cases one <;> cases other <;> simp [Except.toOption] at same
  next => rfl
  next => rw [same]

private theorem leaves_scanDigits (cs : List Char) : Leaves (scanDigits cs) (scanDigits (cs ++ ['\r'])) := by
  have taken : (cs ++ ['\r']).takeWhile isDigit = cs.takeWhile isDigit := by
    induction cs with
    | nil => rfl
    | cons c rest ih => simp only [List.cons_append, List.takeWhile_cons, ih]
  have dropped : (cs ++ ['\r']).dropWhile isDigit = cs.dropWhile isDigit ++ ['\r'] := by
    rw [List.dropWhile_append]
    split
    next nothing => rw [List.isEmpty_iff.mp nothing]; rfl
    next => rfl
  unfold scanDigits
  rw [taken, dropped]
  split
  next => exact .fails _ _
  next => exact .reads _ _

private theorem leaves_scanWhole (cs : List Char) : Leaves (scanWhole cs) (scanWhole (cs ++ ['\r'])) := by
  have leaves := leaves_scanDigits cs
  unfold scanWhole
  generalize scanDigits cs = one, scanDigits (cs ++ ['\r']) = other at leaves ⊢
  cases leaves with
  | fails one other => exact .fails one other
  | reads digits rest =>
      split
      next zero =>
        cases zero
        exact .fails _ _
      next free =>
        split
        next zero =>
          cases zero
          exact absurd rfl (free _ _ _)
        next => exact .reads digits rest

private theorem leaves_scanFraction (cs : List Char) :
    Leaves (scanFraction cs) (scanFraction (cs ++ ['\r'])) := by
  match cs with
  | [] => exact .reads [] []
  | c :: rest =>
      by_cases point : c = '.'
      · subst point
        exact leaves_scanDigits rest
      · have passed : ∀ more, scanFraction (c :: more) = .ok ([], c :: more) := by
          intro more
          unfold scanFraction
          split
          next same => exact absurd (List.cons.inj same).1 point
          next => rfl
        rw [List.cons_append, passed, passed]
        exact .reads [] (c :: rest)

private theorem scanPower_return (cs : List Char) :
    (scanPower (cs ++ ['\r'])).toOption = (scanPower cs).toOption := by
  have digits : ∀ (rest : List Char) (made : List Char → Option (Bool × List Char) × Nat),
      ((scanDigits (rest ++ ['\r'])).map fun read => made read.1).toOption =
        ((scanDigits rest).map fun read => made read.1).toOption := by
    intro rest made
    have leaves := leaves_scanDigits rest
    generalize scanDigits rest = one, scanDigits (rest ++ ['\r']) = other at leaves ⊢
    cases leaves <;> rfl
  cases cs with
  | nil => rfl
  | cons mark rest =>
      by_cases power : mark = 'e' ∨ mark = 'E'
      · simp only [List.cons_append, scanPower, if_pos power]
        cases rest with
        | nil => rfl
        | cons c more =>
            by_cases minus : c = '-'
            · subst minus
              exact digits more fun ds => (some (true, ds), ds.length + 2)
            by_cases plus : c = '+'
            · subst plus
              exact digits more fun ds => (some (false, ds), ds.length + 2)
            · have free := digits (c :: more) fun ds => (some (false, ds), ds.length + 1)
              simpa [minus, plus] using free
      · simp only [List.cons_append, scanPower, if_neg power]

private theorem scanNumeral_return (c : Char) (rest : List Char) :
    (scanNumeral (c :: rest ++ ['\r'])).toOption = (scanNumeral (c :: rest)).toOption := by
  have whole : ∀ negative : Bool, Leaves
      (scanWhole (if negative then (c :: rest).tail else c :: rest))
      (scanWhole (if negative then (c :: rest ++ ['\r']).tail else c :: rest ++ ['\r'])) := by
    intro negative
    cases negative with
    | true => exact leaves_scanWhole rest
    | false => exact leaves_scanWhole (c :: rest)
  have leaves := whole ((c :: rest).head? == some '-')
  refine leaves.toOption_bind fun whole rest => ?_
  refine (leaves_scanFraction rest).toOption_bind fun fraction rest => ?_
  exact toOption_bind (scanPower_return rest)

/-! Words and texts. -/

private theorem alike_scanWord {word : List Char} (token : Token) (solid : '\r' ∉ word) (cs : List Char) :
    (scanWord word token cs).Alike (scanWord word token (cs ++ ['\r'])) := by
  have kept : word <+: cs ++ ['\r'] ↔ word <+: cs := by
    rw [List.prefix_concat_iff]
    refine ⟨?_, .inr⟩
    rintro (rfl | before)
    · exact absurd (by simp) solid
    · exact before
  unfold scanWord
  simp only [List.isPrefixOf_iff_prefix, kept]
  split
  next => exact .same _
  next =>
    have broken : ∀ cs : List Char, (if cs <+: word then ⟨.broken false .early, cs.length⟩
        else ⟨.broken false .malformed, 1⟩ : Lexeme).token.isBroken = true := by
      intro cs
      split <;> rfl
    exact .broken (broken cs) (broken _)

private theorem digits_of_unit (read : hexEscape digits = .unit value) :
    ∃ a b c d rest, digits = a :: b :: c :: d :: rest := by
  match digits with
  | a :: b :: c :: d :: rest => exact ⟨a, b, c, d, rest, rfl⟩
  | [] | [_] | [_, _] | [_, _, _] =>
      unfold hexEscape at read
      split at read <;> cases read

private theorem hexEscape_return (unread : ∀ value, hexEscape digits ≠ .unit value) :
    ∀ value, hexEscape (digits ++ ['\r']) ≠ .unit value := by
  intro value read
  match digits with
  | a :: b :: c :: d :: rest => exact unread value read
  | [] | [_] | [_, _] =>
      obtain ⟨_, _, _, _, _, same⟩ := digits_of_unit read
      simp at same
  | [a, b, c] =>
      unfold hexEscape at read
      split at read
      next => cases read
      next =>
        have none : hexValue? '\r' = none := by decide
        simp only [List.cons_append, List.nil_append, none] at read
        split at read <;> simp_all

private theorem isBroken_of_hexEscape (s : TextState) (unread : ∀ value, hexEscape digits ≠ .unit value) :
    (scanText s ('\\' :: 'u' :: digits)).token.isBroken = true := by
  rw [scanText]
  split
  next => rfl
  next => rfl
  next value read => exact absurd read (unread value)

private theorem partner_return (tail : List Char) :
    partner (tail ++ ['\r']) = partner tail ∨
      ((∀ low, partner tail ≠ .trailing low ∧ partner (tail ++ ['\r']) ≠ .trailing low) ∧
        ∀ s, (scanText s tail).token.isBroken = true ∧
          (scanText s (tail ++ ['\r'])).token.isBroken = true) := by
  match tail with
  | [] => exact .inr ⟨fun _ => ⟨nofun, nofun⟩, fun _ => ⟨rfl, rfl⟩⟩
  -- Only a second escape with too few digits is another one with the carriage return.
  | c :: d :: digits =>
      by_cases escaped : c = '\\' ∧ d = 'u'
      · obtain ⟨rfl, rfl⟩ := escaped
        by_cases read : ∃ value, hexEscape digits = .unit value
        · obtain ⟨value, read⟩ := read
          obtain ⟨a, b, c, d, rest, rfl⟩ := digits_of_unit read
          exact .inl rfl
        · have unread : ∀ value, hexEscape digits ≠ .unit value :=
            fun value same => read ⟨value, same⟩
          have still := hexEscape_return unread
          refine .inr ⟨fun low => ⟨?_, ?_⟩, fun s => ⟨?_, ?_⟩⟩
          · simp only [partner]
            split <;> simp_all
          · simp only [List.cons_append, partner]
            split <;> simp_all
          · exact isBroken_of_hexEscape s unread
          · exact isBroken_of_hexEscape s still
      · have missing : ∀ more, partner (c :: d :: more) = .missing := by
          intro more
          unfold partner
          split <;> simp_all
        exact .inl ((missing _).trans (missing digits).symm)
  | [c] =>
      by_cases slash : c = '\\'
      · subst slash
        exact .inr ⟨fun _ => ⟨nofun, nofun⟩, fun _ => ⟨rfl, rfl⟩⟩
      · have missing : ∀ more, partner (c :: more) = .missing := by
          intro more
          unfold partner
          split <;> simp_all
        exact .inl ((missing _).trans (missing []).symm)

private theorem six_of_trailing {tail : List Char} (paired : partner tail = .trailing value) :
    ∃ a b c d e f rest, tail = a :: b :: c :: d :: e :: f :: rest := by
  unfold partner at paired
  split at paired
  next => cases paired
  next => cases paired
  next digits =>
    split at paired
    next read =>
      obtain ⟨a, b, c, d, rest, rfl⟩ := digits_of_unit read
      exact ⟨_, _, a, b, c, d, rest, rfl⟩
    next => cases paired
    next => cases paired
  next => cases paired

private theorem scanText_of_unit {a b c d : Char} {tail : List Char} (s : TextState)
    (read : hexEscape (a :: b :: c :: d :: tail) = .unit value) (more : List Char) :
    scanText s ('\\' :: 'u' :: a :: b :: c :: d :: tail ++ more) =
      if isTrailing value then scanText ⟨s.read, false, s.length + 6⟩ (tail ++ more)
      else if isLeading value then
        match partner (tail ++ more) with
        | .cut => s.fail .early
        | .missing => scanText ⟨s.read, false, s.length + 6⟩ (tail ++ more)
        | .trailing low =>
          match tail ++ more with
          | _ :: _ :: _ :: _ :: _ :: _ :: after =>
            scanText (s.push (Char.ofNat (0x10000 + (value - 0xD800) * 0x400 + (low - 0xDC00))) 12)
              after
          | _ => s.fail .early
      else scanText (s.push (Char.ofNat value) 6) (tail ++ more) := by
  have same : hexEscape (a :: b :: c :: d :: (tail ++ more)) = .unit value := read
  have opened := scanText.eq_def s ('\\' :: 'u' :: a :: b :: c :: d :: (tail ++ more))
  simp only [same] at opened
  exact opened

private theorem alike_scanText (s : TextState) (text : List Char) :
    (scanText s text).Alike (scanText s (text ++ ['\r'])) := by
  fun_induction scanText s text with
  | case1 s => exact .broken rfl rfl
  | case2 s rest => exact .same _
  | case3 s => exact .broken rfl rfl
  | case4 s digits cut =>
      exact .broken rfl (isBroken_of_hexEscape s (hexEscape_return (by simp [cut])))
  | case5 s digits invalid =>
      exact .broken rfl (isBroken_of_hexEscape s (hexEscape_return (by simp [invalid])))
  | case6 s value a b c d tail trailing read ih =>
      rw [scanText_of_unit s read, if_pos trailing]
      exact ih
  | case7 s value a b c d tail alone leading cut read =>
      rw [scanText_of_unit s read, if_neg alone, if_pos leading]
      refine .broken rfl ?_
      rcases partner_return tail with same | ⟨unpaired, broken⟩
      · rw [same, cut]
        rfl
      · split
        next => rfl
        next => exact (broken _).2
        next low found => exact absurd found (unpaired low).2
  | case8 s value a b c d tail alone leading missing read ih =>
      rw [scanText_of_unit s read, if_neg alone, if_pos leading]
      rcases partner_return tail with same | ⟨unpaired, broken⟩
      · rw [same, missing]
        exact ih
      · refine .broken (broken _).1 ?_
        split
        next => rfl
        next => exact (broken _).2
        next low found => exact absurd found (unpaired low).2
  | case9 s value a b c d alone leading low p q r x y z after paired read ih =>
      rw [scanText_of_unit s read, if_neg alone, if_pos leading]
      rcases partner_return (p :: q :: r :: x :: y :: z :: after) with same | ⟨unpaired, _⟩
      · rw [same, paired]
        exact ih
      · exact absurd paired (unpaired low).1
  | case10 s value a b c d alone leading low tail short paired read =>
      obtain ⟨p, q, r, x, y, z, after, same⟩ := six_of_trailing paired
      exact absurd same (short p q r x y z after)
  | case11 s value a b c d tail alone single read ih =>
      rw [scanText_of_unit s read, if_neg alone, if_neg single]
      exact ih
  | case12 s digits value read short =>
      obtain ⟨a, b, c, d, rest, same⟩ := digits_of_unit read
      exact absurd same (short a b c d rest)
  | case13 s c tail marked value simple ih =>
      rw [List.cons_append, List.cons_append, scanText]
      · simpa only [simple] using ih
      · exact marked
  | case14 s c tail marked unknown =>
      rw [List.cons_append, List.cons_append, scanText]
      · simp only [unknown]
        exact .same _
      · exact marked
  | case15 s c rest quote slash control =>
      rw [List.cons_append, scanText, if_pos control]
      · exact .same _
      · exact quote
      · exact slash
  | case16 s c rest quote slash visible ih =>
      rw [List.cons_append, scanText, if_neg visible]
      · exact ih
      · exact quote
      · exact slash

/-! The tokens of a text. -/

private theorem Lexeme.Alike.ite {p : Prop} [Decidable p] {one other first second : Lexeme}
    (holds : p → one.Alike first) (fails : ¬p → other.Alike second) :
    (if p then one else other).Alike (if p then first else second) := by
  split
  next yes => exact holds yes
  next no => exact fails no

private theorem alike_scan (c : Char) (rest : List Char) :
    (scan c rest).Alike (scan c (rest ++ ['\r'])) := by
  have word : ∀ {word : List Char} (token : Token), '\r' ∉ word →
      (scanWord word token (c :: rest)).Alike (scanWord word token (c :: (rest ++ ['\r']))) :=
    fun token solid => alike_scanWord token solid (c :: rest)
  have numeral := scanNumeral_return c rest
  unfold scan
  iterate 6 refine .ite (fun _ => .same _) fun _ => ?_
  refine .ite (fun _ => alike_scanText _ rest) fun _ => ?_
  iterate 3 refine .ite (fun _ => word _ (by decide)) fun _ => ?_
  refine .ite (fun _ => ?_) fun _ => .same _
  rw [List.cons_append] at numeral
  generalize scanNumeral (c :: (rest ++ ['\r'])) = other, scanNumeral (c :: rest) = one at numeral ⊢
  cases one <;> cases other <;> simp [Except.toOption] at numeral
  next => exact .broken rfl rfl
  next => rw [numeral]; exact .same _

theorem tokensAfter_of_solid (solid : isSpace c = false) (rest : List Char) :
    tokensAfter 0 (c :: rest) =
      if (scan c rest).token.isBroken then [(scan c rest).token]
      else (scan c rest).token :: tokensAfter ((scan c rest).length - 1) rest := by
  rw [tokensAfter]
  simp only [solid, Bool.false_eq_true, if_false]
  cases (scan c rest).token <;> rfl

theorem tokensAfter_return (skip : Nat) (text : List Char) :
    tokensAfter skip (text ++ ['\r']) = tokensAfter skip text ∨
      (tokensAfter skip text).any Token.isBroken = true ∧
        (tokensAfter skip (text ++ ['\r'])).any Token.isBroken = true := by
  induction text generalizing skip with
  | nil => cases skip <;> exact .inl rfl
  | cons c rest ih =>
      cases skip with
      | succ more => exact ih more
      | zero =>
          cases space : isSpace c with
          | true => simpa only [List.cons_append, tokensAfter, if_pos space] using ih 0
          | false =>
              have alike := alike_scan c rest
              rw [List.cons_append, tokensAfter_of_solid space, tokensAfter_of_solid space]
              generalize scan c rest = one, scan c (rest ++ ['\r']) = other at alike ⊢
              cases alike with
              | broken first second => simp [first, second]
              | same =>
                  cases broken : one.token.isBroken with
                  | true => exact .inl rfl
                  | false =>
                      simp only [Bool.false_eq_true, if_false, List.cons.injEq, true_and,
                        List.any_cons, broken, Bool.false_or]
                      exact ih _

end ExchangeTap.Json
