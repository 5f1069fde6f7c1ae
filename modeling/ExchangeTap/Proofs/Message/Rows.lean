import ExchangeTap.Proofs.Message.Lines

namespace ExchangeTap

namespace Utf8

variable {c : Char} {byte : UInt8}

private theorem toNat_of_control (here : byte ∈ encodeChar c) (control : byte.toNat < 32) :
    c.toNat = byte.toNat ∧ encodeChar c = [byte] := by
  have low : c.toNat < 32 := by
    refine Nat.lt_of_not_le fun plain => ?_
    have least := least_of_encodeChar plain byte here
    omega
  have alone : encodeChar c = [c.toNat.toUInt8] := by
    rw [encodeChar, if_pos (by omega)]
  rw [alone, List.mem_singleton] at here
  subst here
  exact ⟨(toNat_toUInt8 (by omega)).symm, alone⟩

private theorem mem_encodeChars_feed {line : List Char} (unbroken : '\n' ∉ line) : 10 ∉ encodeChars line := by
  intro here
  obtain ⟨c, among, inside⟩ := List.mem_flatMap.mp here
  obtain ⟨same, _⟩ := toNat_of_control inside (by decide)
  have feed : c = '\n' := Char.toNat_inj.mp same
  exact unbroken (feed ▸ among)

private theorem encodeChar_ne_nil (c : Char) : encodeChar c ≠ [] := by
  unfold encodeChar
  dsimp only
  repeat' split
  all_goals nofun

private theorem encodeChars_eq_nil_iff {line : List Char} : encodeChars line = [] ↔ line = [] := by
  cases line with
  | nil => exact ⟨fun _ => rfl, fun _ => rfl⟩
  | cons c line => simp [encodeChars, encodeChar_ne_nil]

end Utf8

namespace Replay

/-- What is read line by line, as text. -/
def rows : List Char → List (List Char)
  | [] => []
  | '\n' :: rest => [] :: rows rest
  | '\r' :: '\n' :: rest => [] :: rows rest
  | c :: rest =>
    match rows rest with
    | [] => [[c]]
    | row :: more => (c :: row) :: more

variable {line : List Char}

private theorem rows_cons {c : Char} {rest : List Char} (solid : c ≠ '\n')
    (unpaired : c = '\r' → rest.head? ≠ some '\n') :
    rows (c :: rest) =
      match rows rest with
      | [] => [[c]]
      | row :: more => (c :: row) :: more := by
  rw [rows]
  · exact solid
  · rintro more rfl rfl
    exact unpaired rfl rfl

theorem rows_feed (unbroken : '\n' ∉ line) (rest : List Char) :
    rows (line ++ '\n' :: rest) = bare '\r' line :: rows rest := by
  induction line with
  | nil => rfl
  | cons c line ih =>
      have solid : c ≠ '\n' := fun same => unbroken (by simp [same])
      have behind := ih fun here => unbroken (by simp [here])
      cases line with
      | nil =>
          by_cases mark : c = '\r'
          · subst mark
            rfl
          · rw [List.cons_append, rows_cons solid fun same => absurd same mark, behind]
            simp [bare, mark]
      | cons d line =>
          have other : d ≠ '\n' := fun same => unbroken (by simp [same])
          rw [List.cons_append, rows_cons solid (by simp [other]), behind]
          simp only [bare, List.getLast?_cons_cons, List.dropLast_cons_cons]
          split <;> rfl

theorem rows_replicate_feed (count : Nat) (rest : List Char) :
    rows (List.replicate count '\n' ++ rest) = List.replicate count [] ++ rows rest := by
  induction count with
  | zero => rfl
  | succ count ih => exact congrArg ([] :: ·) ih

theorem rows_of_unbroken (unbroken : '\n' ∉ line) : rows line = if line = [] then [] else [line] := by
  induction line with
  | nil => rfl
  | cons c line ih =>
      have solid : c ≠ '\n' := fun same => unbroken (by simp [same])
      have clean : '\n' ∉ line := fun here => unbroken (by simp [here])
      rw [rows_cons solid fun _ first => clean (List.mem_of_head? first), ih clean]
      cases line <;> rfl

private theorem text_induction {P : List Char → Prop} (last : ∀ line, '\n' ∉ line → P line)
    (feed : ∀ line rest, '\n' ∉ line → P rest → P (line ++ '\n' :: rest)) (text : List Char) : P text := by
  by_cases broken : '\n' ∈ text
  · obtain ⟨line, rest, same, unbroken⟩ := List.eq_append_cons_of_mem broken
    exact same ▸ feed line rest unbroken (text_induction last feed rest)
  · exact last text broken
termination_by text.length
decreasing_by simp only [same, List.length_append, List.length_cons]; omega

private theorem bare_encodeChars (line : List Char) :
    bare 13 (Utf8.encodeChars line) = Utf8.encodeChars (bare '\r' line) := by
  rcases List.eq_nil_or_concat line with rfl | ⟨line, last, rfl⟩
  · rfl
  rw [List.concat_eq_append]
  by_cases mark : last = '\r'
  · subst mark
    have encoded : Utf8.encodeChars (line ++ ['\r']) = Utf8.encodeChars line ++ [13] := by
      rw [Utf8.encodeChars_append]
      rfl
    rw [encoded, bare_concat, bare_concat]
  · have other : (Utf8.encodeChars (line ++ [last])).getLast? ≠ some 13 := by
      intro same
      rw [Utf8.encodeChars_append, Utf8.encodeChars_cons, Utf8.encodeChars_nil, List.append_nil,
        List.getLast?_append, List.getLast?_eq_some_getLast (Utf8.encodeChar_ne_nil last),
        Option.some_or, Option.some.injEq] at same
      have value := (Utf8.toNat_of_control (same ▸ List.getLast_mem _) (by decide)).1
      exact mark (Char.toNat_inj.mp value)
    rw [bare, if_neg other, bare, if_neg (by simpa using mark)]

private theorem lines_of_unbroken {word : List UInt8} (unbroken : 10 ∉ word) :
    lines word = if word = [] then [] else [word] := by
  have whole := lines_go_append unbroken [] []
  rw [List.append_nil, List.append_nil] at whole
  rw [lines, whole, lines.go]
  simp

theorem lines_encodeChars (text : List Char) :
    lines (Utf8.encodeChars text) = (rows text).map Utf8.encodeChars := by
  induction text using text_induction with
  | last line unbroken =>
      rw [rows_of_unbroken unbroken, lines_of_unbroken (Utf8.mem_encodeChars_feed unbroken)]
      simp only [Utf8.encodeChars_eq_nil_iff]
      split <;> rfl
  | feed line rest unbroken ih =>
      have mark : Utf8.encodeChars ('\n' :: rest) = 10 :: Utf8.encodeChars rest := rfl
      rw [rows_feed unbroken, Utf8.encodeChars_append, mark,
        lines_feed (Utf8.mem_encodeChars_feed unbroken), ih, List.map_cons, bare_encodeChars]

theorem last_line (text : List Char) :
    ∃ first line, text = first ++ line ∧ '\n' ∉ line ∧
      ∀ rest, rows (first ++ rest) = rows first ++ rows rest := by
  induction text using text_induction with
  | last line unbroken => exact ⟨[], line, rfl, unbroken, fun _ => rfl⟩
  | feed before text unbroken ih =>
      obtain ⟨first, line, rfl, clean, apart⟩ := ih
      refine ⟨before ++ '\n' :: first, line, by simp, clean, fun rest => ?_⟩
      rw [List.append_assoc, List.cons_append, rows_feed unbroken, apart, rows_feed unbroken,
        List.cons_append]

theorem rows_append {before : List Char} (ended : ∀ c ∈ before.getLast?, c = '\n') (rest : List Char) :
    rows (before ++ rest) = rows before ++ rows rest := by
  obtain ⟨first, line, rfl, unbroken, apart⟩ := last_line before
  rcases List.eq_nil_or_concat line with rfl | ⟨line, last, rfl⟩
  · rw [List.append_nil, apart]
  · have feed : last = '\n' := ended last (by simp)
    exact absurd feed fun same => unbroken (by simp [same])

end Replay

end ExchangeTap
