import Mathlib.Data.List.Forall2
import Mathlib.Logic.Relation
import ExchangeTap.Proofs.Json.Whole
import ExchangeTap.Proofs.Message.Replay
import ExchangeTap.Proofs.Message.Rows

namespace ExchangeTap

open Json

theorem Properties.strict : codec.Strict := by
  refine Codec.Strict.convert (Fields.Strict.codec ?_) _ _
  simp only [Fields.Strict, Codec.strict_text.optional, (Codec.strict_natural _).optional,
    Codec.strict_members, and_self]

theorem SavedMessage.strict : codec.Strict := by
  refine Codec.Strict.convert (Fields.Strict.codec ?_) _ _
  simp only [Fields.Strict, Codec.strict_text, Codec.strict_boolean, instant,
    (Codec.strict_spelled _ _).optional, Properties.strict, and_self]

namespace Replay

variable {options : Options} {row : List Char} {message : Outbound} {messages : List Outbound}

/-- A row holds a saved message with a body in Base64, which is published with the given fields instead of
its own. -/
def Options.Holds (options : Options) (row : List Char) (message : Outbound) : Prop :=
  ∃ saved body, SavedMessage.codec.decodeChars Json.depthLimit row = .ok saved ∧
    Base64.decode saved.body = some body ∧
    message =
      { exchange := options.exchange.getD saved.exchange
        routingKey := options.routingKey.getD saved.routingKey
        properties := { saved.properties with
          contentType := options.contentType.or saved.properties.contentType }
        body := body }

private theorem readLine_eq_some_iff : readLine options row = some message ↔ options.Holds row message := by
  unfold readLine Options.Holds
  cases decoded : SavedMessage.codec.decodeChars Json.depthLimit row with
  | error => simp
  | ok saved =>
      simp only [SavedMessage.toOutbound, Option.map_map, Option.map_eq_some_iff, Function.comp_apply,
        withContentType_eq, Except.ok.injEq, exists_and_left, exists_eq_left', @eq_comm _ message]

private theorem readLine_eq_none_iff :
    readLine options row = none ↔ ∀ message, ¬ options.Holds row message := by
  simp only [← readLine_eq_some_iff, Option.eq_none_iff_forall_ne_some]

/-- A carriage return is a blank of JSON, so it does no harm behind a message. -/
private theorem readLine_return (options : Options) (row : List Char) :
    readLine options (row ++ ['\r']) = readLine options row := by
  refine Option.ext fun message => ?_
  simp only [readLine_eq_some_iff, Options.Holds, SavedMessage.strict.decodeChars_return]

def written (rows : List (List Char)) : List (List Char) :=
  rows.filter fun row => !row.all isBlank

variable {table before : List (List Char)} {number : Int32} {failure : Failure}

private theorem written_cons_of_blank (blank : row.all isBlank = true) :
    written (row :: table) = written table := by
  simp [written, blank]

private theorem written_cons_of_not_blank (inked : row.all isBlank = false) :
    written (row :: table) = row :: written table := by
  simp [written, inked]

def outcomes (options : Options) (table : List (List Char)) : List (Option Outbound) :=
  (written table).map (readLine options)

@[simp] private theorem outcomes_append (options : Options) (before after : List (List Char)) :
    outcomes options (before ++ after) = outcomes options before ++ outcomes options after := by
  simp [outcomes, written]

private theorem outcomes_eq_map_some_iff :
    outcomes options table = messages.map some ↔ List.Forall₂ options.Holds (written table) messages := by
  rw [outcomes, ← List.forall₂_eq_eq_eq, List.forall₂_map_left_iff, List.forall₂_map_right_iff]
  simp only [readLine_eq_some_iff]

/-- A row is blank or holds a message. -/
def Options.Accepts (options : Options) (row : List Char) : Prop :=
  row.all isBlank = true ∨ ∃ message, options.Holds row message

private theorem readLines_of_blank (blank : row.all isBlank = true) (number : Int32)
    (rest : List (List UInt8)) :
    readLines options number (Utf8.encodeChars row :: rest) = readLines options (number + 1) rest := by
  simp only [readLines, Utf8.decodeChars_eq_ok_iff.mpr rfl, if_pos blank]

private theorem readLines_of_held (inked : ¬ row.all isBlank = true) (held : options.Holds row message)
    (number : Int32) (rest : List (List UInt8)) :
    readLines options number (Utf8.encodeChars row :: rest) =
      (readLines options (number + 1) rest).map (message :: ·) := by
  simp only [readLines, Utf8.decodeChars_eq_ok_iff.mpr rfl, if_neg inked, readLine_eq_some_iff.mpr held]

private theorem readLines_of_not_accepted (refused : ¬ options.Accepts row) (number : Int32)
    (rest : List (List UInt8)) :
    readLines options number (Utf8.encodeChars row :: rest) = .error (.invalidLine number) := by
  have inked : ¬ row.all isBlank = true := fun blank => refused (.inl blank)
  have broken : readLine options row = none :=
    readLine_eq_none_iff.mpr fun message held => refused (.inr ⟨message, held⟩)
  simp only [readLines, Utf8.decodeChars_eq_ok_iff.mpr rfl, if_neg inked, broken]

/-- Accepted rows give their messages, and the reading goes on behind them. -/
private theorem readLines_append (accepted : ∀ row ∈ before, options.Accepts row) (number : Int32) :
    ∃ messages, List.Forall₂ options.Holds (written before) messages ∧
      ∀ rest, readLines options number (before.map Utf8.encodeChars ++ rest) =
        (readLines options (number + .ofNat before.length) rest).map (messages ++ ·) := by
  induction before generalizing number with
  | nil =>
      refine ⟨[], .nil, fun rest => ?_⟩
      have none : number + .ofNat ([] : List (List Char)).length = number := Int32.add_zero number
      rw [none]
      exact (congrFun Except.map_id _).symm
  | cons row before ih =>
      obtain ⟨messages, held, behind⟩ := ih (fun other here => accepted other (by simp [here])) (number + 1)
      have count : number + 1 + .ofNat before.length = number + .ofNat (row :: before).length := by
        rw [List.length_cons, Nat.add_comm, Int32.ofNat_add, Int32.add_assoc]
        rfl
      rw [count] at behind
      -- A blank row gives no message, but it is counted.
      by_cases blank : row.all isBlank = true
      · refine ⟨messages, by rwa [written_cons_of_blank blank], fun rest => ?_⟩
        rw [List.map_cons, List.cons_append, readLines_of_blank blank, behind]
      · obtain ⟨message, first⟩ := (accepted row (by simp)).resolve_left blank
        refine ⟨message :: messages, ?_, fun rest => ?_⟩
        · rw [written_cons_of_not_blank (Bool.eq_false_iff.mpr blank)]
          exact .cons first held
        · rw [List.map_cons, List.cons_append, readLines_of_held blank first, behind]
          cases readLines options (number + .ofNat (row :: before).length) rest <;> rfl

private theorem accepted_or_first_refused (options : Options) (table : List (List Char)) :
    (∀ row ∈ table, options.Accepts row) ∨
      ∃ before row after, table = before ++ row :: after ∧
        (∀ earlier ∈ before, options.Accepts earlier) ∧ ¬ options.Accepts row := by
  classical
  cases first : table.find? fun row => ¬ options.Accepts row with
  | none => exact .inl (by simpa using first)
  | some row =>
      obtain ⟨refused, before, after, same, accepted⟩ := List.find?_eq_some_iff_append.mp first
      exact .inr ⟨before, row, after, same, by simpa using accepted, by simpa using refused⟩

private theorem readLines_of_accepted (accepted : ∀ row ∈ table, options.Accepts row) (number : Int32) :
    ∃ messages, readLines options number (table.map Utf8.encodeChars) = .ok messages ∧
      List.Forall₂ options.Holds (written table) messages := by
  obtain ⟨messages, held, read⟩ := readLines_append accepted number
  refine ⟨messages, ?_, held⟩
  have whole := read []
  rwa [List.append_nil, readLines, Except.map, List.append_nil] at whole

private theorem readLines_of_first_refused (accepted : ∀ earlier ∈ before, options.Accepts earlier)
    (refused : ¬ options.Accepts row) (number : Int32) (after : List (List Char)) :
    readLines options number ((before ++ row :: after).map Utf8.encodeChars) =
      .error (.invalidLine (number + .ofNat before.length)) := by
  obtain ⟨messages, -, read⟩ := readLines_append accepted number
  rw [List.map_append, List.map_cons, read, readLines_of_not_accepted refused]
  rfl

private theorem accepted_of_held (held : List.Forall₂ options.Holds (written table) messages) :
    ∀ row ∈ table, options.Accepts row := by
  intro row here
  by_cases blank : row.all isBlank = true
  · exact .inl blank
  · have among : row ∈ written table := List.mem_filter.mpr ⟨here, by simpa using blank⟩
    have read : readLine options row ∈ messages.map some :=
      outcomes_eq_map_some_iff.mpr held ▸ List.mem_map_of_mem among
    obtain ⟨message, -, same⟩ := List.mem_map.mp read
    exact .inr ⟨message, readLine_eq_some_iff.mp same.symm⟩

private theorem readLines_eq_ok_iff : readLines options number (table.map Utf8.encodeChars) = .ok messages ↔
    List.Forall₂ options.Holds (written table) messages := by
  refine ⟨fun read => ?_, fun held => ?_⟩
  · rcases accepted_or_first_refused options table with
      accepted | ⟨before, row, after, rfl, accepted, refused⟩
    · obtain ⟨others, again, held⟩ := readLines_of_accepted accepted number
      cases read.symm.trans again
      exact held
    · cases read.symm.trans (readLines_of_first_refused accepted refused number after)
  · obtain ⟨others, read, again⟩ := readLines_of_accepted (accepted_of_held held) number
    have same : messages.map some = others.map some :=
      (outcomes_eq_map_some_iff.mpr held).symm.trans (outcomes_eq_map_some_iff.mpr again)
    rw [read, List.map_inj_right (fun _ _ => Option.some.inj) |>.mp same]

private theorem readLines_eq_error_iff :
    readLines options number (table.map Utf8.encodeChars) = .error failure ↔
      ∃ before row after, table = before ++ row :: after ∧
        (∀ earlier ∈ before, options.Accepts earlier) ∧ ¬ options.Accepts row ∧
        failure = .invalidLine (number + .ofNat before.length) := by
  refine ⟨fun read => ?_, ?_⟩
  · rcases accepted_or_first_refused options table with
      accepted | ⟨before, row, after, rfl, accepted, refused⟩
    · obtain ⟨messages, again, -⟩ := readLines_of_accepted accepted number
      cases read.symm.trans again
    · refine ⟨before, row, after, rfl, accepted, refused, ?_⟩
      exact Except.error.inj (read.symm.trans (readLines_of_first_refused accepted refused number after))
  · rintro ⟨before, row, after, rfl, accepted, refused, rfl⟩
    exact readLines_of_first_refused accepted refused number after

/-- Both texts have the same rows, apart from blank ones and carriage returns at their ends. -/
inductive Relaid : List Char → List Char → Prop
  | blankLine {before blank : List Char} (ended : ∀ c ∈ before.getLast?, c = '\n')
      (blanks : blank.all isBlank = true) (unbroken : '\n' ∉ blank) (after : List Char) :
      Relaid (before ++ after) (before ++ blank ++ '\n' :: after)
  | carriage (before after : List Char) : Relaid (before ++ '\n' :: after) (before ++ '\r' :: '\n' :: after)
  | lastFeed (text : List Char) : Relaid text (text ++ ['\n'])

private theorem outcomes_singleton_of_blank (options : Options) (blank : row.all isBlank = true) :
    outcomes options [row] = [] := by
  rw [outcomes, written_cons_of_blank blank]
  rfl

private theorem outcomes_return (options : Options) (row : List Char) :
    outcomes options [row ++ ['\r']] = outcomes options [row] := by
  have alike : (row ++ ['\r']).all isBlank = row.all isBlank := by
    rw [List.all_append]
    exact Bool.and_true _
  by_cases blank : row.all isBlank = true
  · rw [outcomes_singleton_of_blank options blank, outcomes_singleton_of_blank options (alike.trans blank)]
  · have inked := Bool.eq_false_iff.mpr blank
    rw [outcomes, outcomes, written_cons_of_not_blank inked, written_cons_of_not_blank (alike.trans inked)]
    exact congrArg ([·]) (readLine_return options row)

private theorem outcomes_bare (options : Options) (line : List Char) :
    outcomes options [bare '\r' line] = outcomes options [line] := by
  unfold bare
  split
  next marked =>
    obtain ⟨row, rfl⟩ := List.getLast?_eq_some_iff.mp marked
    rw [List.dropLast_concat, outcomes_return]
  next => rfl

private theorem outcomes_cons_bare (options : Options) (line : List Char) (table : List (List Char)) :
    outcomes options (bare '\r' line :: table) = outcomes options [line] ++ outcomes options table := by
  rw [← outcomes_bare, ← outcomes_append]
  rfl

private theorem Relaid.outcomes_eq {text other : List Char} (relaid : Relaid text other) (options : Options) :
    outcomes options (rows text) = outcomes options (rows other) := by
  cases relaid with
  | @blankLine before blank ended blanks unbroken after =>
      rw [List.append_assoc, rows_append ended, rows_append ended, rows_feed unbroken, outcomes_append,
        outcomes_append, outcomes_cons_bare, outcomes_singleton_of_blank options blanks, List.nil_append]
  | carriage before after =>
      obtain ⟨first, line, rfl, unbroken, apart⟩ := last_line before
      have returned : '\n' ∉ line ++ ['\r'] := by simp [unbroken]
      have behind : line ++ '\r' :: '\n' :: after = (line ++ ['\r']) ++ '\n' :: after := by simp
      rw [List.append_assoc, List.append_assoc, behind, apart, apart, rows_feed unbroken, rows_feed returned,
        outcomes_append, outcomes_append, outcomes_cons_bare, outcomes_cons_bare, outcomes_return]
  | lastFeed =>
      obtain ⟨first, line, rfl, unbroken, apart⟩ := last_line text
      rw [List.append_assoc, apart, apart, rows_feed unbroken, rows_of_unbroken unbroken, outcomes_append,
        outcomes_append, outcomes_cons_bare]
      split
      next empty => rw [empty]; rfl
      next => exact congrArg (_ ++ ·) (List.append_nil _).symm

private theorem read_encodeChars (asLines : options.jsonLines = true) (text : List Char) :
    read options (Utf8.encodeChars text) = readLines options 1 ((rows text).map Utf8.encodeChars) := by
  rw [read, if_pos asLines, lines_encodeChars]

private theorem Failure.message_ofNat {line : Nat} (small : line < 2 ^ 31) :
    (invalidLine (.ofNat line)).message = s!"Invalid message on line {line}" := by
  have told : toString (Int32.ofNat line) = toString (Int32.ofNat line).toInt := rfl
  rw [message_invalidLine, told, Int32.toInt_ofNat_of_lt small]
  rfl

/-- Either every row is blank or holds a message, and all of the messages are read, or none is and the first
row that neither is blank nor holds one is named, by its number as long as 32 bits hold that. The layout of the
rows does not matter. -/
theorem read_all_or_nothing (asLines : options.jsonLines = true) (text : List Char) :
    ((∃ messages, read options (Utf8.encodeChars text) = .ok messages) ↔
        ∀ row ∈ rows text, options.Accepts row) ∧
      (∀ messages, read options (Utf8.encodeChars text) = .ok messages ↔
        List.Forall₂ options.Holds (written (rows text)) messages) ∧
      (∀ failure, read options (Utf8.encodeChars text) = .error failure ↔
        ∃ before row after, rows text = before ++ row :: after ∧
          (∀ earlier ∈ before, options.Accepts earlier) ∧ ¬ options.Accepts row ∧
          failure = .invalidLine (.ofNat (before.length + 1)) ∧
          (before.length + 1 < 2 ^ 31 →
            failure.message = s!"Invalid message on line {before.length + 1}")) ∧
      ∀ other messages, Relation.EqvGen Relaid text other →
        (read options (Utf8.encodeChars text) = .ok messages ↔
          read options (Utf8.encodeChars other) = .ok messages) := by
  have every (text : List Char) (messages : List Outbound) :
      read options (Utf8.encodeChars text) = .ok messages ↔
        List.Forall₂ options.Holds (written (rows text)) messages := by
    rw [read_encodeChars asLines, readLines_eq_ok_iff]
  refine ⟨⟨?_, fun accepted => ?_⟩, every text, fun failure => ?_, fun other messages alike => ?_⟩
  · rintro ⟨messages, read⟩
    exact accepted_of_held ((every text messages).mp read)
  · obtain ⟨messages, read, -⟩ := readLines_of_accepted accepted 1
    exact ⟨messages, (read_encodeChars asLines text).trans read⟩
  · have count (before : List (List Char)) :
        (1 : Int32) + .ofNat before.length = .ofNat (before.length + 1) := by
      rw [Int32.ofNat_add, Int32.add_comm]
      rfl
    simp only [read_encodeChars asLines, readLines_eq_error_iff, count]
    refine exists₃_congr fun before row after => and_congr_right' <| and_congr_right' <|
      and_congr_right' <| (and_iff_left_of_imp ?_).symm
    rintro rfl small
    exact Failure.message_ofNat small
  · have same : outcomes options (rows text) = outcomes options (rows other) := by
      induction alike with
      | rel _ _ relaid => exact relaid.outcomes_eq options
      | refl _ => rfl
      | symm _ _ _ ih => exact ih.symm
      | trans _ _ _ _ _ first second => exact first.trans second
    rw [every, every, ← outcomes_eq_map_some_iff, ← outcomes_eq_map_some_iff, same]

/-- A blank row between two messages, with carriage returns and without; the body of the last one is no
Base64 once a letter is in it. -/
theorem read_all_or_nothing_around_blank_row :
    let options : Options := ⟨true, some "replay", none, none⟩
    let first := "\x7b\"routing_key\":\"k\",\"body\":\"aGk=\"\x7d".toList
    let second := "\x7b\"body\":\"\"\x7d".toList
    let broken := "\x7b\"body\":\"a\"\x7d".toList
    let messages := [⟨"replay", "k", .empty, [104, 105]⟩, ⟨"replay", "", .empty, []⟩]
    options.jsonLines = true ∧
      read options (Utf8.encodeChars (first ++ '\r' :: '\n' :: ' ' :: '\n' :: second)) = .ok messages ∧
      read options (Utf8.encodeChars (first ++ '\n' :: second ++ ['\n'])) = .ok messages ∧
      read options (Utf8.encodeChars (first ++ '\r' :: '\n' :: ' ' :: '\n' :: broken)) =
        .error (.invalidLine 3) := by
  intro options first second broken messages
  have firstHeld : options.Holds first ⟨"replay", "k", .empty, [104, 105]⟩ := readLine_eq_some_iff.mp rfl
  have secondHeld : options.Holds second ⟨"replay", "", .empty, []⟩ := readLine_eq_some_iff.mp rfl
  have refused : ¬ options.Accepts broken := by
    rintro (blank | ⟨message, held⟩)
    · cases blank
    · cases readLine_eq_some_iff.mpr held
  have unended := read_all_or_nothing (show options.jsonLines = true from rfl)
    (first ++ '\r' :: '\n' :: ' ' :: '\n' :: second)
  have ended := read_all_or_nothing (show options.jsonLines = true from rfl)
    (first ++ '\r' :: '\n' :: ' ' :: '\n' :: broken)
  have whole := (unended.2.1 messages).mpr (.cons firstHeld (.cons secondHeld .nil))
  have feeds : Relaid (first ++ '\n' :: ' ' :: '\n' :: second)
      (first ++ '\r' :: '\n' :: ' ' :: '\n' :: second) := .carriage first (' ' :: '\n' :: second)
  have blankRow : Relaid (first ++ '\n' :: second) (first ++ '\n' :: ' ' :: '\n' :: second) :=
    @Relaid.blankLine (first ++ ['\n']) [' '] (by simp) rfl (by decide) second
  have lastFeed : Relaid (first ++ '\n' :: second) (first ++ '\n' :: second ++ ['\n']) := .lastFeed _
  have alike : Relation.EqvGen Relaid (first ++ '\r' :: '\n' :: ' ' :: '\n' :: second)
      (first ++ '\n' :: second ++ ['\n']) :=
    .trans _ _ _ (.symm _ _ (.trans _ _ _ (.rel _ _ blankRow) (.rel _ _ feeds))) (.rel _ _ lastFeed)
  refine ⟨rfl, whole, (unended.2.2.2 _ messages alike).mp whole, (ended.2.2.1 _).mpr ?_⟩
  refine ⟨[first, [' ']], broken, [], rfl, ?_, refused, rfl, fun _ => rfl⟩
  intro earlier here
  rcases List.mem_pair.mp here with rfl | rfl
  · exact .inr ⟨_, firstHeld⟩
  · exact .inl rfl

/-- As many lines as 32 bits count are blank, and the next one holds no message: it is told to be a line with
a negative number. -/
theorem first_refused_misnumbered :
    let options : Options := ⟨true, none, none, none⟩
    let feeds := List.replicate (2 ^ 31 - 1) '\n'
    let blanks : List (List Char) := List.replicate (2 ^ 31 - 1) []
    let failure : Failure := .invalidLine (-2147483648)
    rows (feeds ++ ['x']) = blanks ++ [['x']] ∧ blanks.length + 1 = 2147483648 ∧
      (∀ blank ∈ blanks, options.Accepts blank) ∧ ¬ options.Accepts ['x'] ∧
      read options (Utf8.encodeChars (feeds ++ ['x'])) = .error failure ∧
      failure.message = "Invalid message on line -2147483648" := by
  intro options feeds blanks failure
  have cut : rows (feeds ++ ['x']) = blanks ++ [['x']] := rows_replicate_feed _ ['x']
  have length : blanks.length = 2 ^ 31 - 1 := List.length_replicate
  have accepted : ∀ blank ∈ blanks, options.Accepts blank := by
    intro blank here
    rw [List.eq_of_mem_replicate here]
    exact .inl rfl
  have refused : ¬ options.Accepts ['x'] := by
    rintro (blank | ⟨message, held⟩)
    · cases blank
    · cases readLine_eq_some_iff.mpr held
  have number : 1 + Int32.ofNat blanks.length = -2147483648 := by
    rw [length]
    decide
  refine ⟨cut, by rw [length], accepted, refused, ?_, rfl⟩
  rw [read_encodeChars rfl, cut, readLines_of_first_refused accepted refused, number]

end Replay

end ExchangeTap
