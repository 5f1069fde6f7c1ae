import ExchangeTap.Worker.Run

/-! The supervisor dials until the broker answers, runs an epoch of the worker for as long as the
connection lives, and dials again when the worker asks for it. A watcher turns the loss of the
connection into a reconnect signal; a shutdown is a signal as well, and a flag beside it that no
signal can be lost from. -/

namespace ExchangeTap

inductive SupervisorPhase where
  | idle
  /-- Signals that are left over are taken out, and no dial has begun. -/
  | draining
  | dialing
  /-- The last dial failed, and the next one has its time. -/
  | retrying (until_ : Nat)
  | working (run : Run)
  /-- The worker has returned, and the watcher is told to end. -/
  | joining (action : Action)
  | closing (action : Action)
  | ended

inductive Closer where
  /-- It waits for the control slot. -/
  | sending
  /-- It waits for the supervisor to end. -/
  | waiting
  | finished (result : Except TapError Unit)

structure Supervised where
  worker : Worker
  /-- Milliseconds between a failed dial and the next one. -/
  retryDelay : Nat
  stage : Stage
  phase : SupervisorPhase
  epochs : Nat
  connected : Bool
  everConnected : Bool
  shutdownRequested : Bool
  watching : Bool
  outcome : Option (Except BrokerError Unit)
  closers : List Closer

inductive Task where
  | main
  | merge
  | watcher
  | closer (index : Nat)
  deriving DecidableEq, Repr

namespace Supervised

def initial (worker : Worker) (retryDelay : Nat) (stage : Stage) : Supervised :=
  ⟨worker, retryDelay, stage, .idle, 0, false, false, false, false, none, []⟩

def isRunning (s : Supervised) : Bool :=
  match s.phase with
  | .idle | .ended => false
  | _ => true

/-- Whether it was not running before. -/
def connect (s : Supervised) : Bool × Supervised :=
  if s.isRunning then (false, s) else (true, { s with phase := .draining })

def finish (s : Supervised) (outcome : Except BrokerError Unit) : Supervised :=
  { s with phase := .ended, outcome := some outcome }

def concludeUnconnected (s : Supervised) : Supervised :=
  { s with stage := s.stage.log .shutdownWhileConnecting }.finish (.ok ())

/-- Waits for a signal beside something else; a shutdown ends the supervision, and a reconnect signal
starts the dialing over. `otherwise` follows when there is no signal. -/
def listen (s : Supervised) (otherwise : Supervised → Option Supervised) : Option Supervised :=
  match s.stage.pollControl .supervisor with
  | (.ready (some .reconnect), stage) => some { s with stage := stage, phase := .draining }
  | (.ready _, stage) => some { s with stage := stage }.concludeUnconnected
  | (.pending, stage) => otherwise { s with stage := stage }

/-- A signal left over from the last epoch is stale, unless it is a shutdown. -/
def drain (s : Supervised) : Supervised :=
  match s.stage.control.tryTake with
  | (some signal, control) =>
    let stage := { s.stage with control := control }.record (.signalTaken signal .supervisor)
    match signal with
    | .shutdown => { s with stage := stage }.concludeUnconnected
    | .reconnect => { s with stage := stage }
  | (none, _) =>
    if s.shutdownRequested then s.concludeUnconnected
    else
      (s.listen fun s => some { s with stage := s.stage.beginDial, phase := .dialing }).getD s

def beginEpoch (s : Supervised) : Supervised :=
  { s with
    stage := (s.stage.log .connected).record .epochStarted
    phase := .working (s.worker.start s.epochs)
    epochs := s.epochs + 1
    connected := true
    everConnected := true
    watching := s.stage.broker.reportsLoss }

def dial (s : Supervised) : Supervised :=
  match s.stage.finishDial with
  | (.error e, stage) =>
    { s with
      stage := stage.log (.dialFailed e s.retryDelay)
      phase := .retrying (stage.now + s.retryDelay) }
  | (.ok (), stage) => { s with stage := stage.cancelControl .supervisor }.beginEpoch

/-- The connection is closed, and unless the worker or a shutdown stops it the supervisor dials
again. -/
def close (s : Supervised) (action : Action) : Supervised :=
  let (result, stage) := s.stage.closeConnection
  let s := { s with connected := false }
  if action = .stop ∨ s.shutdownRequested then
    let entry :=
      match result with
      | .ok () => LogEntry.connectionClosed
      | .error e => .closingFailed e
    { s with stage := stage.log entry }.finish result
  else
    let stage :=
      match result with
      | .ok () => stage
      | .error e => stage.log (.staleClosingFailed e)
    { s with stage := stage.log .reconnecting, phase := .draining }

def mainStep (pick : Pick) (s : Supervised) : Option Supervised :=
  match s.phase with
  | .idle | .ended => none
  | .draining => some s.drain
  | .dialing => s.listen fun s => some s.dial
  | .retrying until_ =>
    s.listen fun after =>
      if until_ ≤ s.stage.now then
        some { after with stage := after.stage.cancelControl .supervisor, phase := .draining }
      else (s.stage.awaiting after.stage).map fun _ => after
  | .working run =>
    match run.result? with
    | some action => some { s with stage := s.stage.record (.epochEnded action), phase := .joining action }
    | none =>
      (run.step pick s.stage).map fun (run, stage) => { s with stage := stage, phase := .working run }
  | .joining action => if s.watching then none else some { s with phase := .closing action }
  | .closing action => some (s.close action)

def mergeStep (s : Supervised) : Option Supervised :=
  match s.phase with
  | .working run =>
    (run.mergeStep s.stage).map fun (run, stage) => { s with stage := stage, phase := .working run }
  | _ => none

/-- The watcher reports a loss, once; none while it waits for one. -/
def watcherStep (pick : Pick) (s : Supervised) : Option Supervised :=
  if !s.watching then none
  else
    let cancelled :=
      match s.phase with
      | .joining _ => true
      | _ => false
    match s.stage.broker.loss, cancelled, pick with
    | none, false, _ => none
    | none, true, _ | some _, true, .second => some { s with watching := false }
    | some e, _, _ =>
      match (s.stage.log (.connectionLost e)).offer .reconnect with
      | (.accepted, stage) => some { s with stage := stage, watching := false }
      | (.full, stage) => some { s with stage := stage.log .signalPending, watching := false }

def closeResult : Except BrokerError Unit → Except TapError Unit
  | .ok () => .ok ()
  | .error e => .error (.close e)

/-- A call to close. The first one after a connection was made sends the shutdown, or waits for the slot
to do so. -/
def requestClose (pick : Pick) (s : Supervised) : Supervised :=
  if !s.everConnected then { s with closers := s.closers ++ [.finished (.error .notConnected)] }
  else if s.shutdownRequested then { s with closers := s.closers ++ [.waiting] }
  else
    let s := { s with shutdownRequested := true, stage := s.stage.log .sendingShutdown }
    if s.outcome.isSome && pick == .second then { s with closers := s.closers ++ [.waiting] }
    else
      match s.stage.offer .shutdown with
      | (.accepted, stage) => { s with stage := stage, closers := s.closers ++ [.waiting] }
      | (.full, stage) =>
        { s with
          stage := { stage with control := { stage.control with reserved := true } }
          closers := s.closers ++ [.sending] }

def closerStep (pick : Pick) (index : Nat) (s : Supervised) : Option Supervised :=
  let become (closer : Closer) (s : Supervised) : Supervised :=
    { s with closers := s.closers.set index closer }
  match s.closers[index]? with
  | some .sending =>
    let unreserved := { s.stage with control := { s.stage.control with reserved := false } }
    if s.outcome.isSome && (pick == .second || s.stage.control.slot.isSome) then
      some (become .waiting { s with stage := unreserved })
    else
      match unreserved.offer .shutdown with
      | (.accepted, stage) => some (become .waiting { s with stage := stage })
      | (.full, _) => none
  | some .waiting => s.outcome.map fun outcome => become (.finished (closeResult outcome)) s
  | _ => none

def step (pick : Pick) (s : Supervised) : Task → Option Supervised
  | .main => s.mainStep pick
  | .merge => s.mergeStep
  | .watcher => s.watcherStep pick
  | .closer index => s.closerStep pick index

def tasks (s : Supervised) : List Task :=
  .main :: .merge :: .watcher :: (List.range s.closers.length).map .closer

def advance (s : Supervised) : Option Supervised :=
  s.tasks.findSome? (s.step .first)

def settled (s : Supervised) : Supervised :=
  settle advance ample s

def deadline? (s : Supervised) : Option Nat :=
  match s.phase with
  | .retrying until_ => some until_
  | .working run => run.deadline?
  | _ => none

end Supervised

end ExchangeTap
