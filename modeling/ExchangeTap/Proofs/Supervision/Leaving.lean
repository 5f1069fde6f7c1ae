import ExchangeTap.Proofs.Supervision.Careers
import ExchangeTap.Proofs.Supervision.Publishing

namespace ExchangeTap

namespace ControlPath

variable {ρ : Type} {p : ControlPath ρ}

/-- Nobody holds the lock or waits for it, and what is in the slot can be taken at once. -/
def IsFree (p : ControlPath ρ) : Prop :=
  p.holder = none ∧ p.queue = [] ∧ p.tryTake.1 = p.slot

private theorem UsedBy.isFree (used : p.UsedBy none) : p.IsFree :=
  ⟨used.free, used.queue, by rw [tryTake_of_usedBy_none used]⟩

end ControlPath

namespace Run

/-- Whatever merge the worker has started is not alive any more. -/
def IsAlone (run : Run) : Prop :=
  ∀ fanIn, run.intake.fanIn = some fanIn → fanIn.alive = false

variable {run : Run} {control : ControlPath Reader} {action : Action}

theorem Orderly.alone (orderly : run.Orderly control) (returned : run.result? = some action) :
    run.IsAlone := by
  cases run with
  | tap setupRetry run =>
      obtain ⟨phase, ledger, consumers, fanIn, channels⟩ := run
      cases phase with
      | finished action => exact FanIn.Employed.ended orderly rfl
      | _ => cases returned
  | subscribe queue run =>
      obtain ⟨phase, consumers, fanIn⟩ := run
      cases phase with
      | finished action => exact FanIn.Employed.ended orderly rfl
      | _ => cases returned
  | publish run | script epoch run =>
      obtain ⟨phase⟩ := run
      cases phase with
      | finished action => rintro _ ⟨⟩
      | _ => cases returned

end Run

namespace Supervised

variable {s : Supervised}

theorem Guarded.free {action : Action} (guarded : s.Guarded)
    (returned : s.phase.returned? = some action) : s.stage.control.UsedBy none := by
  have lock := guarded.lock
  cases phase : s.phase with
  | working run =>
      rw [phase] at lock returned
      exact Run.Orderly.released lock returned
  | joining action | closing action =>
      rw [phase] at lock
      exact lock
  | _ =>
      rw [phase] at returned
      cases returned

private theorem taken_of_draining {signal : Signal} {pick : Pick} (guarded : s.Guarded)
    (phase : s.phase = .draining) (pending : s.stage.control.slot = some signal) :
    ∃ t told, perform (.task pick .main) s = some t ∧ t.stage.control.slot = none ∧
      t.stage.journal = told ++ .signalTaken signal .supervisor :: s.stage.journal := by
  have lock := guarded.lock
  rw [phase] at lock
  have drained : perform (.task pick .main) s = some s.drain := by
    simp [perform, step, mainStep, phase]
  rw [drained, drain, ControlPath.tryTake_of_usedBy_none lock, pending]
  cases signal with
  | reconnect => exact ⟨_, [], rfl, rfl, rfl⟩
  | shutdown => exact ⟨_, [_], rfl, rfl, rfl⟩

end Supervised

open Supervised in
/-- When a worker returns, the merge that it has started is not alive, and nobody holds the lock of
the control path or waits for it. Under supervision the lock stays free until the connection is
closed, and a signal that is still in the slot then is taken before the next dial. -/
theorem Career.nothing_left_behind {worker : Worker} {stage : Stage} {turns : List Career.Turn}
    {c : Career} {retryDelay capacity : Nat} {broker : Broker} {suffix : Nat → String}
    {acts : List Act} {s : Supervised}
    (taken : play Career.take turns (.start worker stage) = some c)
    (performed : play performAnew acts (fresh worker retryDelay broker capacity suffix) = some s) :
    (∀ run action, c.run = some run → run.result? = some action →
      run.IsAlone ∧ c.stage.control.IsFree) ∧
    (∀ action, s.phase.returned? = some action → s.stage.control.IsFree) ∧
    (∀ run action, s.phase = .working run → run.result? = some action → run.IsAlone) ∧
    (s.phase = .draining → s.stage.control.IsFree ∧
      ∀ signal pick, s.stage.control.slot = some signal →
        ∃ t told, perform (.task pick .main) s = some t ∧ t.stage.control.slot = none ∧
          t.stage.journal = told ++ .signalTaken signal .supervisor :: s.stage.journal) := by
  have orderly : c.Orderly := play_preserves Career.Orderly.take (by rintro _ ⟨⟩) taken
  obtain ⟨guarded, _⟩ := career_play performed
  refine ⟨?_, ?_, ?_, ?_⟩
  · intro run action present returned
    exact ⟨(orderly run present).alone returned,
      ((orderly run present).released returned).isFree⟩
  · exact fun action returned => (guarded.free returned).isFree
  · intro run action phase returned
    have lock := guarded.lock
    rw [phase] at lock
    exact Run.Orderly.alone lock returned
  · intro phase
    have lock := guarded.lock
    rw [phase] at lock
    exact ⟨ControlPath.UsedBy.isFree lock,
      fun signal pick pending => taken_of_draining guarded phase pending⟩

open Supervised in
/-- A tapping worker is shut down while its merge waits at the lock; and one that cannot open its
channel leaves a reconnect signal behind. -/
theorem Career.nothing_left_behind_after_shutdown :
    let suffix (_ : Nat) := "suffix"
    let shutdown := { Stage.initial .initial 1 suffix with
      control := { ControlPath.empty with slot := some .shutdown } }
    let worker := Career.Turn.worker .first
    let turns := .begins :: .replicate 7 worker ++ [.elsewhere shutdown [], .merge, .merge, .merge] ++
      .replicate 6 worker ++ [.merge, worker]
    let tap := Worker.tap [⟨"orders", "#"⟩] 0
    let main := Act.task .second .main
    let acts := [.connect, main, main, .world .drop, .task .first .watcher] ++ .replicate 7 main
    let broker := { Broker.initial with refusedChannels := [some Broker.channelRefused] }
    ∃ c run s t told, play Career.take turns (.start tap (.initial .initial 1 suffix)) = some c ∧
      c.run = some run ∧ run.result? = some .stop ∧ run.intake.fanIn.isSome = true ∧
      run.IsAlone ∧ c.stage.control.IsFree ∧
      play performAnew acts (fresh tap 0 broker 1 suffix) = some s ∧ s.phase = .draining ∧
      s.stage.control.slot = some .reconnect ∧ perform main s = some t ∧
      t.stage.control.slot = none ∧
      t.stage.journal = told ++ .signalTaken .reconnect .supervisor :: s.stage.journal := by
  intro suffix shutdown worker turns tap main acts broker
  have returns : (play Career.take turns (.start tap (.initial .initial 1 suffix))).bind (fun c =>
      c.run.map fun run => (run.result?, run.intake.fanIn.isSome)) = some (some .stop, true) := by
    decide +kernel
  have waits : (play performAnew acts (fresh tap 0 broker 1 suffix)).map (fun s =>
      (s.phase.isSeeking, s.phase.isListening, s.stage.control.slot)) =
        some (true, false, some .reconnect) := by
    decide +kernel
  obtain ⟨c, taken, running⟩ := Option.bind_eq_some_iff.mp returns
  obtain ⟨run, present, same⟩ := Option.map_eq_some_iff.mp running
  obtain ⟨returned, merged⟩ := Prod.mk.inj same
  obtain ⟨s, performed, same⟩ := Option.map_eq_some_iff.mp waits
  simp only [Prod.mk.injEq] at same
  obtain ⟨seeking, deaf, pending⟩ := same
  have draining : s.phase = .draining := by
    cases phase : s.phase with
    | draining => rfl
    | dialing | retrying => rw [phase] at deaf; cases deaf
    | _ => rw [phase] at seeking; cases seeking
  obtain ⟨left, _, _, drained⟩ := nothing_left_behind taken performed
  obtain ⟨alone, free⟩ := left run .stop present returned
  obtain ⟨t, told, next, empty, journal⟩ := (drained draining).2 .reconnect .second pending
  exact ⟨c, run, s, t, told, taken, present, returned, merged, alone, free, performed, draining,
    pending, next, empty, journal⟩

end ExchangeTap
