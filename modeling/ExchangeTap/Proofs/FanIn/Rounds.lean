import ExchangeTap.Proofs.FanIn.Held
import ExchangeTap.Proofs.Play
import Mathlib.Data.List.Rotate

/-! Between any two steps of the merge its inputs may come into any other state, somebody may
receive, and it may be told to stop. -/

namespace ExchangeTap

inductive Deed where
  | takes (input : Nat)
  | closes (input : Nat)
  | releases (input : Nat)
  deriving DecidableEq, Repr

namespace Deed

def endsRound : Deed → Bool
  | takes _ | closes _ => true
  | releases _ => false

def rounds (deeds : List Deed) : Nat :=
  deeds.countP endsRound

@[simp] theorem rounds_nil : rounds [] = 0 := rfl

@[simp] theorem rounds_append (first second : List Deed) :
    rounds (first ++ second) = rounds first + rounds second :=
  List.countP_append

theorem rounds_releases (inputs : List Nat) : rounds (inputs.map releases) = 0 := by
  simp [rounds, endsRound, List.countP_map, List.countP_eq_zero]

end Deed

def Glance.deeds (input : Nat) : Glance T → List Deed
  | item _ => [.takes input]
  | closed => [.closes input]
  | nothing | failure => []

/-- The same inputs, with a record of what is done to them, the latest first. -/
def Inputs.recorded (inputs : Inputs σ T) : Inputs (σ × List Deed) T where
  look state input :=
    let (glance, after) := inputs.look state.1 input
    (glance, after, glance.deeds input ++ state.2)
  release state input := (inputs.release state.1 input, .releases input :: state.2)

namespace Merge

variable {inputs : Inputs σ T} {s : σ} {deeds : List Deed} {m : Merge T}

theorem scan_recorded {order : List Nat} {found : Option (Nat × Glance T)} {u : σ × List Deed}
    (scanned : scan inputs.recorded (s, deeds) order = (found, u)) :
    scan inputs s order = (found, u.1) ∧
      u.2 = found.elim [] (fun result => result.2.deeds result.1) ++ deeds := by
  induction order generalizing s with
  | nil =>
      cases scanned
      exact ⟨rfl, rfl⟩
  | cons input rest ih =>
      cases looked : inputs.look s input with
      | mk glance next =>
          rw [scan, Inputs.recorded] at scanned
          rw [scan, looked]
          simp only [looked] at scanned
          cases glance with
          | nothing => exact ih scanned
          | item | closed | failure =>
              cases scanned
              exact ⟨rfl, rfl⟩

theorem releaseAll_recorded (m : Merge T) :
    m.releaseAll inputs.recorded (s, deeds) =
      (m.releaseAll inputs s, m.openInputs.reverse.map .releases ++ deeds) := by
  unfold releaseAll
  induction m.openInputs generalizing s deeds with
  | nil => rfl
  | cons input rest ih =>
      rw [List.foldl_cons, ih]
      simp [Inputs.recorded]

/-- The number of the round that goes on or comes next. A round that waits was counted already. -/
def number (m : Merge T) : Nat :=
  match m.phase with
  | .choosing (some _) => (m.round + (roundLimit - 1)) % roundLimit
  | _ => m.round

private theorem number_before {round : Nat} (counted : round < roundLimit) :
    ((round + 1) % roundLimit + (roundLimit - 1)) % roundLimit = round := by
  unfold roundLimit at *
  omega

private theorem number_after {round : Nat} (counted : round < roundLimit) :
    ((round + (roundLimit - 1)) % roundLimit + 1) % roundLimit = round := by
  unfold roundLimit at *
  omega

def rota (m : Merge T) : List Nat :=
  m.openInputs.rotate m.number

theorem mem_rota {input : Nat} : input ∈ m.rota ↔ input ∈ m.openInputs :=
  List.mem_rotate

private theorem rota_of_begin (phase : m.phase = .choosing none) : m.rota = m.order := by
  rw [rota, number, phase, List.rotate_eq_drop_append_take_mod]
  rfl

end Merge

namespace FanIn

inductive Turn (σ : Type) where
  | merge
  | receive
  | stop
  | elsewhere (state : σ)

def Turn.isMerge : Turn σ → Bool
  | merge => true
  | receive | stop | elsewhere _ => false

def take (inputs : Inputs σ T) :
    Turn σ → FanIn T × σ × List Deed → Option (FanIn T × σ × List Deed)
  | .merge, (f, s) => f.advance inputs.recorded s
  | .receive, (f, s) => some (f.receive.2, s)
  | .stop, (f, s) => some (f.stop, s)
  | .elsewhere state, (f, _, deeds) => some (f, state, deeds)

/-- The rounds follow each other, and only inputs that there were from the beginning are open. -/
structure Regular (count : Nat) (f : FanIn T) : Prop where
  counted : f.merge.round < Merge.roundLimit
  kept : ∀ order, f.merge.phase = .choosing (some order) → order = f.merge.rota
  known : ∀ input ∈ f.merge.openInputs, input < count

variable {inputs : Inputs σ T} {s t : σ} {f g : FanIn T} {count : Nat}
variable {kept : Option (List Nat)} {deeds after : List Deed} {turn : Turn σ}

theorem regular_start (count : Nat) : (start count : FanIn T).Regular count :=
  ⟨Nat.two_pow_pos 64, nofun, fun _ => List.mem_range.mp⟩

theorem Regular.congr (regular : f.Regular count) (merge : g.merge = f.merge) :
    g.Regular count := by
  refine ⟨?_, ?_, ?_⟩
  · rw [merge]
    exact regular.counted
  · rw [merge]
    exact regular.kept
  · rw [merge]
    exact regular.known

theorem Regular.rota (regular : f.Regular count) (phase : f.merge.phase = .choosing kept) :
    kept.getD f.merge.order = f.merge.rota := by
  cases kept with
  | none => exact (Merge.rota_of_begin phase).symm
  | some order => exact regular.kept order phase

theorem Regular.number (regular : f.Regular count) (phase : f.merge.phase = .choosing kept)
    (unstopped : f.stopRequested = false) (advanced : f.advance inputs s = some (g, t)) :
    g.merge.round < Merge.roundLimit ∧
      ((∃ order, g.merge.phase = .choosing (some order)) ∧ g.merge.number = f.merge.number ∨
        (∀ order, g.merge.phase ≠ .choosing (some order)) ∧
          g.merge.number = (f.merge.number + 1) % Merge.roundLimit) := by
  have counted := regular.counted
  simp only [advance, phase, unstopped, Bool.false_eq_true, if_false] at advanced
  simp only [Merge.number, phase]
  split at advanced
  · cases advanced
  · cases kept with
    | none =>
        have next : (f.merge.round + 1) % Merge.roundLimit < Merge.roundLimit :=
          Nat.mod_lt _ (Nat.two_pow_pos 64)
        split at advanced <;> cases advanced
        · exact ⟨next, .inl ⟨⟨_, rfl⟩, Merge.number_before counted⟩⟩
        all_goals exact ⟨next, .inr ⟨nofun, rfl⟩⟩
    | some order =>
        split at advanced <;> cases advanced
        all_goals exact ⟨counted, .inr ⟨nofun, (Merge.number_after counted).symm⟩⟩

theorem Regular.advance (regular : f.Regular count) (advanced : f.advance inputs s = some (g, t)) :
    g.Regular count := by
  cases advances_of_advance advanced with
  | finishes => exact ⟨regular.counted, nofun, nofun⟩
  | waits phase unstopped =>
      obtain ⟨counted, ⟨_, same⟩ | ⟨closed, _⟩⟩ := regular.number phase unstopped advanced
      · refine ⟨counted, ?_, regular.known⟩
        rintro order ⟨⟩
        rw [← Merge.rota_of_begin phase, Merge.rota, ← same]
        rfl
      · cases closed _ rfl
  | takes phase unstopped =>
      exact ⟨(regular.number phase unstopped advanced).1, nofun, regular.known⟩
  | closes phase unstopped =>
      refine ⟨(regular.number phase unstopped advanced).1, nofun, fun input member => ?_⟩
      exact regular.known input (List.mem_filter.mp member).1
  | crashes phase unstopped =>
      exact ⟨(regular.number phase unstopped advanced).1, nofun, nofun⟩
  | gives => exact ⟨regular.counted, nofun, regular.known⟩

theorem Regular.take (regular : f.Regular count)
    (taken : take inputs turn (f, s, deeds) = some (g, t, after)) : g.Regular count := by
  cases turn with
  | merge => exact regular.advance taken
  | receive =>
      cases taken
      exact regular.congr (merge_receive rfl)
  | stop | elsewhere =>
      cases taken
      exact regular.congr rfl

theorem Regular.play {turns : List (Turn σ)} (regular : f.Regular count)
    (played : play (FanIn.take inputs) turns (f, s, deeds) = some (g, t, after)) :
    g.Regular count :=
  play_preserves (P := fun state : FanIn T × σ × List Deed => state.1.Regular count)
    (fun regular taken => regular.take taken) regular played

private theorem record_of_take (taken : take inputs turn (f, s, deeds) = some (g, t, after)) :
    ∃ done, after = done ++ deeds := by
  cases turn with
  | merge =>
      refine advance_keeps (P := fun state : σ × List Deed => ∃ done, state.2 = done ++ deeds)
        ?_ ?_ ⟨[], rfl⟩ taken
      · rintro _ _ input _ ⟨done, record⟩ ⟨⟩
        exact ⟨_ ++ done, by rw [record, List.append_assoc]⟩
      · rintro _ input ⟨done, record⟩
        exact ⟨.releases input :: done, congrArg (Deed.releases input :: ·) record⟩
  | receive | stop | elsewhere =>
      cases taken
      exact ⟨[], rfl⟩

theorem record_of_play {turns : List (Turn σ)}
    (played : play (FanIn.take inputs) turns (f, s, deeds) = some (g, t, after)) :
    ∃ done, after = done ++ deeds := by
  refine play_preserves (P := fun state : FanIn T × σ × List Deed => ∃ done, state.2.2 = done ++ deeds)
    ?_ ⟨[], rfl⟩ played
  rintro turn ⟨f, s, _⟩ ⟨g, t, _⟩ ⟨done, rfl⟩ taken
  obtain ⟨more, rfl⟩ := record_of_take taken
  exact ⟨more ++ done, (List.append_assoc _ _ _).symm⟩

end FanIn

end ExchangeTap
