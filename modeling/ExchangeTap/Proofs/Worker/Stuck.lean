import ExchangeTap.Proofs.Worker.Heeding

namespace ExchangeTap

def TapPhase.envelope? : TapPhase → Option (Envelope Received)
  | reporting error => some (.failed error)
  | forwarding (.sending _ message) => some (.delivered message)
  | _ => none

def SubscribePhase.envelope? : SubscribePhase → Option (Envelope Received)
  | reporting error => some (.failed error)
  | forwarding (.sending _ message) => some (.delivered message)
  | _ => none

namespace Run

/-- What the worker is about to hand to the output. -/
def envelope? : Run → Option (Envelope Received)
  | tap _ run => run.phase.envelope?
  | subscribe _ run => run.phase.envelope?
  | publish _ | script _ _ => none

def Blocked (run : Run) (s : Stage) : Prop :=
  ∃ envelope, run.envelope? = some envelope ∧ s.output.send envelope = .full

end Run

/-- What a worker that cannot go on waits for. -/
inductive Intake.Stuck (s : Stage) : Intake → Prop where
  | listening (empty : s.control.slot = none) : Stuck s ⟨own, none, .listening⟩
  | waiting (pending : f.receive = (.pending, g)) : Stuck s ⟨own, some f, .forwarding .waiting⟩
  | stopping (running : f.merge.isRunning = true) : Stuck s ⟨own, some f, .stopping action⟩
  | returned : Stuck s ⟨own, last, .returned action⟩

private theorem Stage.full_of_hand {s : Stage} {input : Option Nat} {envelope : Envelope Received}
    (full : s.hand input envelope = .full) : s.output.send envelope = .full := by
  unfold hand at full
  split at full <;> first | assumption | cases full

private theorem Stage.pollControl_of_slot {s : Stage} {r : Reader} {signal : Signal}
    (used : s.control.UsedBy (some r)) (pending : s.control.slot = some signal) :
    ∃ t, s.pollControl r = (.ready (some signal), t) := by
  cases polled : s.pollControl r with
  | mk result t =>
      rcases pollControl_cases used polled with
        ⟨other, rfl, slot, _⟩ | ⟨_, slot, _⟩ | ⟨_, slot, _⟩
      · cases slot.symm.trans pending
        exact ⟨t, rfl⟩
      · cases slot.symm.trans pending
      · cases slot.symm.trans pending

namespace Forward

variable {forward : Forward} {f : FanIn Item} {s : Stage}

private theorem stuck_cases (stuck : forward.step f s = none) :
    (forward = waiting ∧ ∃ g, f.receive = (.pending, g)) ∨
      ∃ input message, forward = sending input message ∧
        s.output.send (.delivered message) = .full := by
  cases forward with
  | waiting =>
      simp only [step] at stuck
      split at stuck
      · rename_i pending
        exact .inl ⟨rfl, _, pending⟩
      · cases stuck
      · cases stuck
  | sending input message =>
      simp only [step] at stuck
      split at stuck <;> rename_i handed <;> cases stuck
      exact .inr ⟨input, message, rfl, Stage.full_of_hand handed⟩

end Forward

private theorem FanIn.silent_of_waiting {f g : FanIn Item} {consumers : List Nat} {s : Stage}
    (going : f.Going) (hears : f.Hears consumers.length) (pending : f.receive = (.pending, g))
    (halted : f.advance (Item.inputs consumers) s = none)
    (used : s.control.UsedBy (Item.listener consumers f.merge.openInputs)) :
    s.control.slot = none ∧ f.held = [] := by
  have outlet := outlet_of_pending pending
  have control : consumers[consumers.length]? = none := List.getElem?_eq_none (Nat.le_refl _)
  rw [Item.listener_of_mem hears.isOpen (by simp [Item.isControl])] at used
  rcases hears.stuck going halted with full | ⟨empty, order, t, member, scanned⟩
  · simp [outlet] at full
  · exact ⟨Item.slot_of_scan control member used scanned, by simp [held, outlet, empty]⟩

namespace TapRun

variable {run : TapRun} {s : Stage}

private theorem stuck_of_step {setupRetry : Nat} (fits : run.intake.Fits) (orderly : run.Orderly s.control)
    (stuck : run.step setupRetry .first s = none) :
    (∃ envelope, run.phase.envelope? = some envelope ∧ s.output.send envelope = .full) ∨
      run.intake.Stuck s := by
  obtain ⟨phase, ledger, consumers, fanIn, channels⟩ := run
  cases phase with
  | opening left =>
      cases left with
      | nil => cases stuck
      | cons binding left =>
          simp only [step] at stuck
          split at stuck <;> cases stuck
  | creating plan channel lacking left =>
      cases lacking <;> simp only [step] at stuck <;> split at stuck <;> cases stuck
  | reporting error =>
      simp only [step] at stuck
      split at stuck <;> rename_i handed <;> cases stuck
      exact .inl ⟨_, rfl, Stage.full_of_hand handed⟩
  | forwarding forward =>
      obtain ⟨f, rfl⟩ := fits
      simp only [step] at stuck
      split at stuck <;> rename_i stepped <;> cases stuck
      rcases Forward.stuck_cases stepped with ⟨rfl, g, pending⟩ | ⟨input, delivery, rfl, full⟩
      · exact .inr (.waiting pending)
      · exact .inl ⟨_, rfl, full⟩
  | removing left channel retried departure => cases left <;> cases stuck
  | pausing until_ =>
      cases fits
      have used : s.control.UsedBy (some .worker) := orderly.used
      refine .inr (.listening ?_)
      cases slot : s.control.slot with
      | none => rfl
      | some signal =>
          obtain ⟨t, polled⟩ := Stage.pollControl_of_slot used slot
          simp only [step, polled] at stuck
          cases signal <;> cases stuck
  | stopping action =>
      obtain ⟨f, rfl, _⟩ := fits
      simp only [step] at stuck
      split at stuck
      · cases stuck
      · rename_i running
        exact .inr (.stopping (by simpa [mergeEnded] using running))
  | finished action => exact .inr .returned

end TapRun

namespace SubscribeRun

variable {run : SubscribeRun} {s : Stage}

private theorem stuck_of_step {queue : String} (fits : run.intake.Fits)
    (stuck : run.step queue s = none) :
    (∃ envelope, run.phase.envelope? = some envelope ∧ s.output.send envelope = .full) ∨
      run.intake.Stuck s := by
  obtain ⟨phase, consumers, fanIn⟩ := run
  cases phase with
  | opening | consuming channel =>
      simp only [step] at stuck
      split at stuck <;> cases stuck
  | reporting error =>
      simp only [step] at stuck
      split at stuck <;> rename_i handed <;> cases stuck
      exact .inl ⟨_, rfl, Stage.full_of_hand handed⟩
  | forwarding forward =>
      obtain ⟨f, rfl⟩ := fits
      simp only [step] at stuck
      split at stuck <;> rename_i stepped <;> cases stuck
      rcases Forward.stuck_cases stepped with ⟨rfl, g, pending⟩ | ⟨input, delivery, rfl, full⟩
      · exact .inr (.waiting pending)
      · exact .inl ⟨_, rfl, full⟩
  | stopping action =>
      obtain ⟨f, rfl, _⟩ := fits
      simp only [step] at stuck
      split at stuck
      · cases stuck
      · rename_i running
        exact .inr (.stopping (by simpa [mergeEnded] using running))
  | finished action => exact .inr .returned

end SubscribeRun

namespace PublishRun

variable {run : PublishRun} {s : Stage}

private theorem stuck_of_step (orderly : run.Orderly s.control) (stuck : run.step s = none) :
    run.intake.Stuck s := by
  obtain ⟨phase⟩ := run
  cases phase with
  | opening | reopening =>
      simp only [step] at stuck
      split at stuck <;> cases stuck
  | ready channel =>
      refine .listening ?_
      cases slot : s.control.slot with
      | none => rfl
      | some signal =>
          obtain ⟨t, polled⟩ := Stage.pollControl_of_slot orderly slot
          simp only [step, polled] at stuck
          cases signal <;> cases stuck
  | finished action => exact .returned

end PublishRun

namespace Run

variable {run : Run} {s : Stage} {taken : List Signal}

private theorem stuck_of_step (unscripted : run.isScript = false) (fits : run.intake.Fits)
    (orderly : run.Orderly s.control) (stuck : run.step .first s = none) :
    run.Blocked s ∨ run.intake.Stuck s := by
  cases run with
  | tap setupRetry run =>
      exact TapRun.stuck_of_step fits orderly (Option.map_eq_none_iff.mp stuck)
  | subscribe queue run =>
      exact SubscribeRun.stuck_of_step fits (Option.map_eq_none_iff.mp stuck)
  | publish run =>
      exact .inr (PublishRun.stuck_of_step orderly (Option.map_eq_none_iff.mp stuck))
  | script epoch run => cases unscripted

theorem merge_of_stuck {f : FanIn Item} (fits : run.intake.Fits)
    (orderly : run.Orderly s.control) (present : run.intake.fanIn = some f)
    (stuck : run.mergeStep s = none) :
    f.advance (Item.inputs run.intake.consumers) s = none ∧
      s.control.UsedBy (Item.listener run.intake.consumers f.merge.openInputs) := by
  cases run with
  | tap setupRetry run =>
      obtain ⟨phase, ledger, consumers, fanIn, channels⟩ := run
      cases present
      exact ⟨Option.map_eq_none_iff.mp stuck, orderly.used⟩
  | subscribe queue run =>
      obtain ⟨phase, consumers, fanIn⟩ := run
      cases phase with
      | opening | consuming channel | reporting error => cases fits.symm.trans present
      | forwarding | stopping | finished =>
          cases present
          exact ⟨Option.map_eq_none_iff.mp stuck, orderly.used⟩
  | publish run =>
      obtain ⟨phase⟩ := run
      cases phase <;> cases present
  | script epoch run =>
      obtain ⟨phase⟩ := run
      cases phase <;> cases present

theorem silent_of_stuck (unscripted : run.isScript = false) (fits : run.intake.Fits)
    (orderly : run.Orderly s.control) (heeding : Heeding taken run.intake)
    (unfinished : run.result? = none) (stuck : run.step .first s = none)
    (mergeStuck : run.mergeStep s = none) :
    run.Blocked s ∨ s.control.slot = none ∧ taken = [] := by
  refine (stuck_of_step unscripted fits orderly stuck).imp_right fun waits => ?_
  have merging := fun f present => merge_of_stuck (f := f) fits orderly present mergeStuck
  rw [result?_of_intake] at unfinished
  generalize run.intake = intake at heeding unfinished waits merging
  cases waits with
  | listening empty =>
      cases heeding with
      | listening nothing => exact ⟨empty, nothing⟩
  | returned => cases unfinished
  -- a merge that is told to end can go on until it has
  | stopping running =>
      cases heeding with
      | stopping stopped =>
          obtain ⟨halted, _⟩ := merging _ rfl
          cases FanIn.advance_of_stopped stopped running halted
  -- the outlet is empty, so it is the slot that the merge waits for
  | waiting pending =>
      cases heeding with
      | forwarding going hears held =>
          obtain ⟨halted, used⟩ := merging _ rfl
          obtain ⟨empty, nothing⟩ := FanIn.silent_of_waiting going hears pending halted used
          rw [nothing] at held
          exact ⟨empty, held.symm⟩

end Run

end ExchangeTap
