import ExchangeTap.Proofs.Supervision.Acts
import ExchangeTap.Proofs.Worker.RunConduct

/-! The lock of the control path is held by the supervisor while it looks for a connection, and by
the worker and its merge during an epoch; so whoever listens hears what is in the slot. -/

namespace ExchangeTap

namespace Stage

def hear (s : Stage) (signal : Signal) : Stage :=
  { s with control := { s.control with slot := none, holder := none } }.record
    (.signalTaken signal .supervisor)

def await (s : Stage) : Stage :=
  { s with control := { s.control with holder := some .supervisor } }

def unlock (s : Stage) : Stage :=
  { s with control := { s.control with holder := none } }

def put (s : Stage) (signal : Signal) : Stage :=
  { s with control := { s.control with slot := some signal } }.record (.signalSent signal)

def reserve (s : Stage) (reserved : Bool) : Stage :=
  { s with control := { s.control with reserved := reserved } }

/-- Something is done that changes nothing for the supervision. -/
structure Aside (before after : Stage) : Prop where
  control : after.control = before.control
  loss : after.broker.loss = before.broker.loss
  tells : before.Tells (fun e => e.directs = false ∧ e.taken? = none) after

theorem Aside.trans {s t u : Stage} (first : s.Aside t) (second : t.Aside u) : s.Aside u :=
  ⟨second.control.trans first.control, second.loss.trans first.loss,
    first.tells.trans second.tells⟩

theorem aside_log (s : Stage) (entry : LogEntry) : s.Aside (s.log entry) :=
  ⟨rfl, rfl, tells_record s ⟨rfl, rfl⟩⟩

theorem aside_closeConnection {s t : Stage} {result : Except BrokerError Unit}
    (closed : s.closeConnection = (result, t)) : s.Aside t := by
  cases closed
  exact ⟨rfl, rfl, tells_record { s with broker := _ } ⟨rfl, rfl⟩⟩

theorem Aside.directs {s t : Stage} (aside : s.Aside t) : s.Tells (·.directs = false) t :=
  aside.tells.mono fun _ both => both.1

theorem Aside.connects {s t : Stage} (aside : s.Aside t) : s.Tells (·.connects = false) t :=
  aside.directs.mono fun _ => Event.connects_of_directs

theorem tells_log {P : Event → Prop} {entry : LogEntry} (s : Stage) (told : P (.logged entry)) :
    s.Tells P (s.log entry) :=
  tells_record s told

theorem tells_hear {P : Event → Prop} {signal : Signal} (s : Stage)
    (told : P (.signalTaken signal .supervisor)) : s.Tells P (s.hear signal) :=
  tells_record { s with control := _ } told

theorem tells_put {P : Event → Prop} {signal : Signal} (s : Stage)
    (told : P (.signalSent signal)) : s.Tells P (s.put signal) :=
  tells_record { s with control := _ } told

theorem offer_of_free {s : Stage} (signal : Signal) (empty : s.control.slot = none)
    (unreserved : s.control.reserved = false) : s.offer signal = (.accepted, s.put signal) := by
  simp [offer, ControlPath.offer, empty, unreserved, put]

theorem offer_of_full {s : Stage} (signal : Signal)
    (full : s.control.slot.isSome || s.control.reserved) : s.offer signal = (.full, s) := by
  simp [offer, ControlPath.offer, full]

end Stage

namespace SupervisorPhase

def Guards (phase : SupervisorPhase) (control : ControlPath Reader) : Prop :=
  match phase with
  | dialing | retrying _ => control.UsedBy (some .supervisor)
  | working run => run.Orderly control
  | _ => control.UsedBy none

variable {phase : SupervisorPhase} {p q : ControlPath Reader}

theorem Guards.congr (guards : phase.Guards p) (holder : q.holder = p.holder)
    (queue : q.queue = p.queue) : phase.Guards q := by
  cases phase with
  | working run => exact Run.Orderly.congr guards holder queue
  | _ => exact ControlPath.UsedBy.congr guards holder queue

theorem Guards.queue (guards : phase.Guards p) (seeking : phase.isSeeking = true) :
    p.queue = [] := by
  cases phase with
  | draining => exact ControlPath.UsedBy.queue guards
  | dialing | retrying _ => exact ControlPath.UsedBy.queue guards
  | _ => cases seeking

end SupervisorPhase

namespace Supervised

/-- The lock of the control path is where it belongs, and signals can still be sent. -/
structure Guarded (s : Supervised) : Prop where
  lock : s.phase.Guards s.stage.control
  senderAlive : s.stage.control.senderAlive = true

inductive Call (s : Supervised) : Supervised → Prop where
  | refuses (unknown : s.everConnected = false) :
      Call s { s with closers := s.closers ++ [.finished (.error .notConnected)] }
  | follows (known : s.everConnected = true) (requested : s.shutdownRequested = true) :
      Call s { s with closers := s.closers ++ [.waiting] }
  | comesLate (known : s.everConnected = true) (unrequested : s.shutdownRequested = false)
      (concluded : s.outcome.isSome = true) :
      Call s { s with
        stage := s.stage.log .sendingShutdown
        shutdownRequested := true
        closers := s.closers ++ [.waiting] }
  | sends (known : s.everConnected = true) (unrequested : s.shutdownRequested = false)
      (empty : s.stage.control.slot = none) (unreserved : s.stage.control.reserved = false) :
      Call s { s with
        stage := (s.stage.log .sendingShutdown).put .shutdown
        shutdownRequested := true
        closers := s.closers ++ [.waiting] }
  | queues (known : s.everConnected = true) (unrequested : s.shutdownRequested = false)
      (full : s.stage.control.slot.isSome || s.stage.control.reserved) :
      Call s { s with
        stage := (s.stage.log .sendingShutdown).reserve true
        shutdownRequested := true
        closers := s.closers ++ [.sending] }

/-- What each act can do. -/
inductive Move (s : Supervised) : Act → Supervised → Prop where
  | begins (phase : s.phase = .idle) : Move s .connect { s with phase := .draining }
  | hearsReconnect (seeking : s.phase.isSeeking = true)
      (pending : s.stage.control.slot = some .reconnect) :
      Move s (.task pick .main) { s with stage := s.stage.hear .reconnect, phase := .draining }
  | hearsShutdown (seeking : s.phase.isSeeking = true)
      (pending : s.stage.control.slot = some .shutdown) :
      Move s (.task pick .main) { s with stage := s.stage.hear .shutdown }.concludeUnconnected
  | remembers (phase : s.phase = .draining) (empty : s.stage.control.slot = none)
      (requested : s.shutdownRequested = true) : Move s (.task pick .main) s.concludeUnconnected
  | dials (phase : s.phase = .draining) (empty : s.stage.control.slot = none)
      (unrequested : s.shutdownRequested = false) :
      Move s (.task pick .main) { s with stage := s.stage.await.beginDial, phase := .dialing }
  | fails (phase : s.phase = .dialing) (empty : s.stage.control.slot = none)
      {e : BrokerError} {broker : Broker} (refused : s.stage.broker.dial = (.error e, broker)) :
      Move s (.task pick .main) { s with
        stage := { s.stage.await with broker := broker }.log (.dialFailed e s.retryDelay)
        phase := .retrying (s.stage.now + s.retryDelay) }
  | connects (phase : s.phase = .dialing) (empty : s.stage.control.slot = none)
      {broker : Broker} (answered : s.stage.broker.dial = (.ok (), broker)) :
      Move s (.task pick .main) { s with
        stage := { s.stage.unlock with broker := broker }.record .dialSucceeded }.beginEpoch
  | retries {until_ : Nat} (phase : s.phase = .retrying until_)
      (empty : s.stage.control.slot = none) :
      Move s (.task pick .main) { s with stage := s.stage.unlock, phase := .draining }
  | sleeps {until_ : Nat} (phase : s.phase = .retrying until_)
      (empty : s.stage.control.slot = none) :
      Move s (.task pick .main) { s with stage := s.stage.await }
  | works {run next : Run} {stage : Stage} (phase : s.phase = .working run)
      (unfinished : run.result? = none) (worked : s.stage.Worked stage)
      (orderly : next.Orderly stage.control) :
      Move s (.task pick .main) { s with stage := stage, phase := .working next }
  | merges {run next : Run} {stage : Stage} (phase : s.phase = .working run)
      (same : next.result? = run.result?) (worked : s.stage.Worked stage)
      (orderly : next.Orderly stage.control) :
      Move s (.task pick .merge) { s with stage := stage, phase := .working next }
  | returns {run : Run} {action : Action} (phase : s.phase = .working run)
      (returned : run.result? = some action) :
      Move s (.task pick .main) { s with
        stage := s.stage.record (.epochEnded action)
        phase := .joining action }
  | joins {action : Action} (phase : s.phase = .joining action)
      (alone : s.watching = false) : Move s (.task pick .main) { s with phase := .closing action }
  | quits {action : Action} {result : Except BrokerError Unit} {stage : Stage}
      (phase : s.phase = .closing action)
      (final : action = .stop ∨ s.shutdownRequested = true) (aside : s.stage.Aside stage) :
      Move s (.task pick .main) ({ s with stage := stage, connected := false }.finish result)
  | redials {action : Action} {stage : Stage} (phase : s.phase = .closing action)
      (unrequested : s.shutdownRequested = false) (aside : s.stage.Aside stage) :
      Move s (.task pick .main) { s with stage := stage, connected := false, phase := .draining }
  | dismisses {action : Action} (watching : s.watching = true)
      (phase : s.phase = .joining action) :
      Move s (.task pick .watcher) { s with watching := false }
  | reports {e : BrokerError} (watching : s.watching = true)
      (lost : s.stage.broker.loss = some e) (empty : s.stage.control.slot = none)
      (unreserved : s.stage.control.reserved = false) :
      Move s (.task pick .watcher) { s with
        stage := (s.stage.log (.connectionLost e)).put .reconnect
        watching := false }
  | concedes {e : BrokerError} (watching : s.watching = true)
      (lost : s.stage.broker.loss = some e)
      (full : s.stage.control.slot.isSome || s.stage.control.reserved) :
      Move s (.task pick .watcher) { s with
        stage := (s.stage.log (.connectionLost e)).log .signalPending
        watching := false }
  | calls {t : Supervised} (call : Call s t) : Move s (.close pick) t
  | givesUp {index : Nat} (waits : s.closers[index]? = some .sending)
      (concluded : s.outcome.isSome = true) :
      Move s (.task pick (.closer index)) { s with
        stage := s.stage.reserve false
        closers := s.closers.set index .waiting }
  | delivers {index : Nat} (waits : s.closers[index]? = some .sending)
      (empty : s.stage.control.slot = none) :
      Move s (.task pick (.closer index)) { s with
        stage := (s.stage.reserve false).put .shutdown
        closers := s.closers.set index .waiting }
  | finishes {index : Nat} {outcome : Except BrokerError Unit}
      (waits : s.closers[index]? = some .waiting) (concluded : s.outcome = some outcome) :
      Move s (.task pick (.closer index)) { s with
        closers := s.closers.set index (.finished (closeResult outcome)) }
  | world (change : World) : Move s (.world change) { s with stage := s.stage.undergo change }

variable {s t : Supervised}

theorem Call.connects (call : Call s t) : s.stage.Tells (·.connects = false) t.stage := by
  cases call with
  | refuses | follows => exact .refl _
  | comesLate | queues => exact Stage.tells_log _ rfl
  | sends => exact .trans (Stage.tells_log _ rfl) (Stage.tells_put _ rfl)

theorem Call.counted (call : Call s t) :
    t.everConnected = s.everConnected ∧ t.epochs = s.epochs := by
  cases call <;> exact ⟨rfl, rfl⟩

theorem guarded_fresh (worker : Worker) (retryDelay : Nat) (broker : Broker) (capacity : Nat)
    (suffix : Nat → String) : (fresh worker retryDelay broker capacity suffix).Guarded :=
  ⟨ControlPath.usedBy_empty, rfl⟩

theorem Guarded.move {act : Act} (guarded : s.Guarded) (move : Move s act t) : t.Guarded := by
  have lock := guarded.lock
  have alive := guarded.senderAlive
  cases move with
  | begins phase | remembers phase | joins phase =>
      rw [phase] at lock
      exact ⟨lock, alive⟩
  | hearsReconnect seeking | hearsShutdown seeking =>
      exact ⟨⟨lock.queue seeking, .inl rfl⟩, alive⟩
  | dials phase | fails phase =>
      rw [phase] at lock
      exact ⟨⟨lock.queue rfl, .inr rfl⟩, alive⟩
  | sleeps phase =>
      refine ⟨?_, alive⟩
      rw [phase] at lock ⊢
      exact ⟨lock.queue rfl, .inr rfl⟩
  | connects phase =>
      rw [phase] at lock
      exact ⟨Run.orderly_start _ _ ⟨lock.queue rfl, .inl rfl⟩, alive⟩
  | retries phase =>
      rw [phase] at lock
      exact ⟨⟨lock.queue rfl, .inl rfl⟩, alive⟩
  | works phase _ worked orderly | merges phase _ worked orderly =>
      exact ⟨orderly, worked.senderAlive.trans alive⟩
  | returns phase returned =>
      rw [phase] at lock
      exact ⟨Run.Orderly.released lock returned, alive⟩
  | quits phase _ aside | redials phase _ aside =>
      rw [phase, ← aside.control] at lock
      rw [← aside.control] at alive
      exact ⟨lock, alive⟩
  | dismisses | reports | concedes | givesUp | delivers | finishes =>
      exact ⟨lock.congr rfl rfl, alive⟩
  | calls call => cases call <;> exact ⟨lock.congr rfl rfl, alive⟩
  | world change =>
      rw [← Stage.undergo_control s.stage change] at lock alive
      exact ⟨lock, alive⟩

end Supervised

end ExchangeTap
