import ExchangeTap.Proofs.Text.Digits
import ExchangeTap.Session.Publishing

namespace ExchangeTap

namespace Unsigned

def unsigned : List Char → List Char
  | '+' :: digits => digits
  | digits => digits

/-- The text has decimal digits, any number of them, and their number is `n`. -/
structure Tells (text : List Char) (n : Nat) : Prop where
  inhabited : unsigned text ≠ []
  decimal : ∀ c ∈ unsigned text, Digits.IsDecimal c
  value : Digits.read 0 (unsigned text) = n

variable {text digits : List Char} {n start : Nat}

private theorem readDigits_eq_ok_iff (small : start < limit) :
    readDigits start digits = .ok n ↔
      (∀ c ∈ digits, Digits.IsDecimal c) ∧ Digits.read start digits = n ∧ n < limit := by
  induction digits generalizing start with
  | nil =>
      simp only [readDigits, Except.ok.injEq, Digits.read, List.foldl_nil]
      constructor
      · rintro rfl
        exact ⟨List.forall_mem_nil _, rfl, small⟩
      · exact fun told => told.2.1
  | cons c rest ih =>
      rw [readDigits, List.forall_mem_cons]
      by_cases decimal : '0' ≤ c ∧ c ≤ '9'
      · rw [if_pos decimal]
        by_cases fits : start * 10 + Digits.value c < limit
        · simp only [if_pos fits, ih fits, Digits.IsDecimal, decimal, and_self, true_and]
          rfl
        · -- more digits do not make the number smaller
          simp only [if_neg fits]
          constructor
          · intro read
            cases read
          · intro told
            have least := Digits.le_read (start * 10 + Digits.value c) rest
            exact absurd (Nat.lt_of_le_of_lt least (told.2.1 ▸ told.2.2)) fits
      · rw [if_neg decimal]
        constructor
        · intro read
          cases read
        · exact fun told => absurd told.1.1 decimal

private theorem eq_of_unsigned_eq_nil (empty : unsigned text = []) : text = [] ∨ text = ['+'] := by
  unfold unsigned at empty
  split at empty
  next => exact .inr (by rw [empty])
  next => exact .inl empty

private theorem read_eq_readDigits (inhabited : unsigned text ≠ []) :
    read text = readDigits 0 (unsigned text) := by
  unfold unsigned at *
  unfold read
  split <;> simp_all

private theorem read_eq_ok_iff : read text = .ok n ↔ Tells text n ∧ n < limit := by
  by_cases inhabited : unsigned text = []
  · have unread : read text ≠ .ok n := by rcases eq_of_unsigned_eq_nil inhabited with rfl | rfl <;> nofun
    exact ⟨fun read => absurd read unread, fun told => absurd inhabited told.1.inhabited⟩
  · rw [read_eq_readDigits inhabited, readDigits_eq_ok_iff (by decide)]
    exact ⟨fun ⟨decimal, value, small⟩ => ⟨⟨inhabited, decimal, value⟩, small⟩,
      fun ⟨told, small⟩ => ⟨told.decimal, told.value, small⟩⟩

end Unsigned

namespace Pipe

/-- The most items that a pipe can hold; three bits of a word of 64 bits are used for something else. -/
def mostItems : Nat :=
  (2 ^ 64 - 1) >>> 3

/-- A pipe is only opened with a capacity in these bounds. -/
def Opens (p : Pipe α) : Prop :=
  0 < p.capacity ∧ p.capacity ≤ mostItems

end Pipe

namespace Settings

variable {lookup : String → Option String} {settings : Settings}

private theorem buffer_of_read (accepted : read lookup = .ok settings) :
    readNumber lookup "AMQPTAP_OUTPUT_BUFFER" default.outputBuffer = .ok settings.outputBuffer ∧
      0 < settings.outputBuffer := by
  unfold read at accepted
  split at accepted
  next => cases accepted
  next =>
    split at accepted
    next => cases accepted
    next buffer told =>
      split at accepted
      next => cases accepted
      next some =>
        cases accepted
        exact ⟨told, Nat.pos_of_ne_zero some⟩

private theorem buffer_told (accepted : read lookup = .ok settings) :
    lookup "AMQPTAP_OUTPUT_BUFFER" = none ∧ settings.outputBuffer = default.outputBuffer ∨
      ∃ value, lookup "AMQPTAP_OUTPUT_BUFFER" = some value ∧
        Unsigned.Tells value.toList settings.outputBuffer := by
  have told := (buffer_of_read accepted).1
  unfold readNumber at told
  split at told
  next unset => exact .inl ⟨unset, (Except.ok.inj told).symm⟩
  next value set =>
    split at told
    next n number =>
      cases told
      exact .inr ⟨value, set, (Unsigned.read_eq_ok_iff.mp number).1⟩
    next => cases told

/-- Whatever environment is accepted, its sessions can open their pipes unless the number that it tells is
more than a pipe can hold. -/
theorem pipes_open_iff_of_accepted (accepted : read lookup = .ok settings)
    (workers : List (Worker × Stage)) (printer : Printer) (stage : Stage) (messages : List Outbound) :
    (ReceivingSession.start settings workers printer).output.Opens ∧
        (PublishingSession.start settings stage messages).member.stage.feed.Opens ↔
      ∀ value ∈ lookup "AMQPTAP_OUTPUT_BUFFER", ∀ n, Unsigned.Tells value.toList n → n ≤ Pipe.mostItems := by
  have positive := (buffer_of_read accepted).2
  have receiving : (ReceivingSession.start settings workers printer).output.Opens ↔
      settings.outputBuffer ≤ Pipe.mostItems := and_iff_right positive
  have publishing : (PublishingSession.start settings stage messages).member.stage.feed.Opens ↔
      settings.outputBuffer ≤ Pipe.mostItems := and_iff_right positive
  rw [receiving, publishing, and_self]
  rcases buffer_told accepted with ⟨unset, size⟩ | ⟨value, set, told⟩
  · simp [unset, size, default, Pipe.mostItems]
  · refine ⟨fun within other same n also => ?_, fun within => within value set _ told⟩
    cases set.symm.trans same
    exact (told.value.symm.trans also.value) ▸ within

def buffered (value name : String) : Option String :=
  if name = "AMQPTAP_OUTPUT_BUFFER" then some value else none

/-- The greatest capacity that a pipe can have, with a sign and a leading zero. -/
theorem pipes_open_at_most_items :
    ∃ settings, read (buffered "+02305843009213693951") = .ok settings ∧
      ∀ workers printer stage messages,
        (ReceivingSession.start settings workers printer).output.Opens ∧
          (PublishingSession.start settings stage messages).member.stage.feed.Opens := by
  have accepted : read (buffered "+02305843009213693951") =
      .ok { default with outputBuffer := 2305843009213693951 } := rfl
  refine ⟨_, accepted, fun workers printer stage messages => ?_⟩
  refine (pipes_open_iff_of_accepted accepted workers printer stage messages).mpr ?_
  rintro value ⟨⟩ n told
  have number : Digits.read 0 (Unsigned.unsigned "+02305843009213693951".toList) = 2305843009213693951 := by
    decide +kernel
  rw [← told.value, number]
  decide

/-- One item more is accepted as well, but no session can open a pipe for so many. -/
theorem pipes_unopened_beyond_most_items :
    ∃ settings, read (buffered "2305843009213693952") = .ok settings ∧
      ∀ workers printer stage messages,
        ¬(ReceivingSession.start settings workers printer).output.Opens ∧
          ¬(PublishingSession.start settings stage messages).member.stage.feed.Opens := by
  have accepted : read (buffered "2305843009213693952") =
      .ok { default with outputBuffer := 2305843009213693952 } := rfl
  have beyond : ¬2305843009213693952 ≤ Pipe.mostItems := by decide
  exact ⟨_, accepted, fun _ _ _ _ => ⟨fun opens => beyond opens.2, fun opens => beyond opens.2⟩⟩

end Settings

end ExchangeTap
