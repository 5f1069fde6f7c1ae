import ExchangeTap.Output.Directory
import ExchangeTap.Proofs.Text.Digits
import ExchangeTap.Proofs.Text.Keyed
import Mathlib.Data.List.Nodup
import Mathlib.Data.List.Perm.Subperm
import Mathlib.Order.Bounds.Basic

/-! The search for a name goes from number to number and ends, since there are more numbers than
files. -/

namespace ExchangeTap.Directory

/-- The search for a name, with no bound on the number of attempts. -/
inductive Search (files : List (String × String)) : Int → Int → Prop where
  | found {number : Int} (unused : isUsed files number = false) : Search files number number
  | next {number last : Int} (used : isUsed files number = true)
      (onward : Search files (number + 1) last) : Search files number last

def file (message : Received) (number : Int) : String × String :=
  (fileName number, SavedMessage.codec.encodePretty (.ofReceived message))

/-- A message is saved under the number that the search from its time on finds, and nothing else changes. -/
structure Filed (message : Received) (before after : List (String × String)) (number : Int) : Prop where
  search : Search before (firstNumber message) number
  least : IsLeast {n | firstNumber message ≤ n ∧ fileName n ∉ before.map (·.1)} number
  added : after.Perm (file message number :: before)

inductive Filings : List Received → List (String × String) → List (String × String) → Prop where
  | done {files : List (String × String)} : Filings [] files files
  | more {message : Received} {messages : List Received} {before after last : List (String × String)}
      {number : Int} (filed : Filed message before after number)
      (rest : Filings messages after last) : Filings (message :: messages) before last

variable {files before after : List (String × String)} {number start : Int} {fuel : Nat}
  {message : Received} {messages : List Received}

private theorem fileName_injective {first second : Int} (same : fileName first = fileName second) :
    first = second := by
  apply Digits.integer_injective
  apply String.ofList_injective
  rw [fileName, fileName, String.append_left_inj, String.append_right_inj] at same
  exact same

private theorem isUsed_iff : isUsed files number = true ↔ fileName number ∈ files.map (·.1) := by
  simp [isUsed]

private theorem isUsed_eq_false_iff : isUsed files number = false ↔ fileName number ∉ files.map (·.1) := by
  rw [← isUsed_iff, Bool.not_eq_true]

private theorem Search.isLeast (search : Search files start number) :
    IsLeast {n | start ≤ n ∧ fileName n ∉ files.map (·.1)} number := by
  induction search with
  | found unused => exact ⟨⟨Int.le_refl _, isUsed_eq_false_iff.mp unused⟩, fun _ other => other.1⟩
  | next used onward ih =>
      obtain ⟨⟨later, free⟩, least⟩ := ih
      refine ⟨⟨by omega, free⟩, fun other ⟨notBefore, unused⟩ => ?_⟩
      apply least
      have differs : other ≠ _ := fun same => unused (same ▸ isUsed_iff.mp used)
      exact ⟨by omega, unused⟩

private theorem used_of_exhausted (exhausted : isUsed files (freeNumber.go files fuel start) = true) :
    ∀ passed ≤ fuel, isUsed files (start + passed) = true := by
  induction fuel generalizing start with
  | zero =>
      intro passed none
      cases Nat.le_zero.mp none
      rw [Int.natCast_zero, Int.add_zero]
      exact exhausted
  | succ fuel ih =>
      rw [freeNumber.go] at exhausted
      split at exhausted
      next used =>
        intro passed within
        cases passed with
        | zero =>
            rw [Int.natCast_zero, Int.add_zero]
            exact used
        | succ passed =>
            have further := ih exhausted passed (Nat.le_of_succ_le_succ within)
            rwa [Int.add_assoc, Int.add_comm 1] at further
      next unused => exact absurd exhausted unused

/-- Numbers have different names, so more of them than there are files are not all used. -/
private theorem isUsed_freeNumber (files : List (String × String)) (start : Int) :
    isUsed files (freeNumber files start) = false := by
  apply Bool.eq_false_of_not_eq_true
  intro exhausted
  have used := used_of_exhausted exhausted
  have distinct : ((List.range (files.length + 1)).map fun passed : Nat =>
      fileName (start + passed)).Nodup := by
    apply List.Nodup.map _ List.nodup_range
    intro first second same
    have same := fileName_injective same
    omega
  have among : (List.range (files.length + 1)).map (fun passed : Nat => fileName (start + passed)) ⊆
      files.map (·.1) := by
    intro name here
    obtain ⟨passed, within, rfl⟩ := List.mem_map.mp here
    exact isUsed_iff.mp (used passed (Nat.le_of_lt_succ (List.mem_range.mp within)))
  have more := (List.subperm_of_subset distinct among).length_le
  simp only [List.length_map, List.length_range] at more
  omega

private theorem search_go (ends : isUsed files (freeNumber.go files fuel start) = false) :
    Search files start (freeNumber.go files fuel start) := by
  induction fuel generalizing start with
  | zero => exact .found ends
  | succ fuel ih =>
      rw [freeNumber.go] at ends ⊢
      split at ends
      next used =>
        rw [if_pos used]
        exact .next used (ih ends)
      next unused =>
        rw [if_neg unused]
        exact .found ends

private theorem search_freeNumber (files : List (String × String)) (start : Int) :
    Search files start (freeNumber files start) :=
  search_go (isUsed_freeNumber files start)

theorem filed_save {d : Directory} (there : d.files = some before) (message : Received) :
    ∃ number after, d.save message = .ok { d with files := some after } ∧
      Filed message before after number := by
  have search := search_freeNumber before (firstNumber message)
  have least := search.isLeast
  refine ⟨_, _, by rw [save, there], search, least, Keyed.perm_insert_of_fresh ?_⟩
  exact least.1.2

private theorem Filings.perm (filings : Filings messages before after) :
    ∃ added : List (String × String), added.length = messages.length ∧ after.Perm (added ++ before) := by
  induction filings with
  | done => exact ⟨[], rfl, .refl _⟩
  | @more message _ _ _ _ number filed rest ih =>
      obtain ⟨added, length, perm⟩ := ih
      refine ⟨added ++ [file message number], by simp [length], perm.trans ?_⟩
      rw [List.append_assoc]
      exact filed.added.append_left added

/-- Every message is saved in a file of its own, whatever files there are and whenever the messages came; no
file is ever replaced. -/
theorem saved_beside_all_others {d : Directory} (there : d.files = some files)
    (messages : List Received) :
    ∃ last, messages.foldlM save d = .ok { d with files := some last } ∧ Filings messages files last ∧
      ∃ added : List (String × String), added.length = messages.length ∧
        last.Perm (added ++ files) := by
  have filings : ∃ last, messages.foldlM save d = .ok { d with files := some last } ∧
      Filings messages files last := by
    induction messages generalizing d files with
    | nil =>
        refine ⟨files, ?_, .done⟩
        rw [← there]
        rfl
    | cons message rest ih =>
        obtain ⟨number, after, saved, filed⟩ := filed_save there message
        obtain ⟨last, others, filings⟩ := ih (d := { d with files := some after }) rfl
        refine ⟨last, ?_, .more filed filings⟩
        rw [List.foldlM_cons, saved]
        exact others
  obtain ⟨last, saved, filings⟩ := filings
  exact ⟨last, saved, filings, filings.perm⟩

/-- Two messages of the same time find its number and the next but one taken; then there come one with an
earlier time, one in a leap second, and one whose time in nanoseconds 64 bits do not hold. -/
theorem saved_beside_all_others_past_taken_names :
    let files := [("amqptap-7.json", "old"), ("amqptap-9.json", "old")]
    let d : Directory := ⟨"saved", some files⟩
    let messages : List Received :=
      [⟨default, ⟨0, 7⟩⟩, ⟨default, ⟨0, 7⟩⟩, ⟨default, ⟨0, 6⟩⟩, ⟨default, ⟨59, 1500000000⟩⟩,
        ⟨default, ⟨253402300800, 0⟩⟩]
    ∃ last, messages.foldlM save d = .ok { d with files := some last } ∧ Filings messages files last ∧
      last.map (·.1) = ["amqptap-0.json", "amqptap-10.json", "amqptap-6.json",
        "amqptap-60500000000.json", "amqptap-7.json", "amqptap-8.json", "amqptap-9.json"] := by
  intro files d messages
  obtain ⟨last, saved, filings, -⟩ := saved_beside_all_others (show d.files = some files from rfl) messages
  have names : ((messages.foldlM save d).toOption.bind (·.files)).map (·.map (·.1)) =
      some ["amqptap-0.json", "amqptap-10.json", "amqptap-6.json", "amqptap-60500000000.json",
        "amqptap-7.json", "amqptap-8.json", "amqptap-9.json"] := by
    decide +kernel
  rw [saved] at names
  exact ⟨last, saved, filings, Option.some.inj names⟩

end ExchangeTap.Directory
