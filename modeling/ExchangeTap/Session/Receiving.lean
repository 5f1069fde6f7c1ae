import ExchangeTap.CommandLine.Taps
import ExchangeTap.Output.Consumption
import ExchangeTap.Settings
import ExchangeTap.Supervisor

/-! Any number of supervised workers put their envelopes into one pipe, and the session prints what
comes out of it until it is interrupted, a worker fails for good, or all have stopped. Then nobody
reads the pipe any more, and the supervisors are closed one after another. -/

namespace ExchangeTap

inductive ReceivingPhase where
  | consuming
  /-- The supervisor of that number is to be closed next. -/
  | closing (member : Nat)
  /-- That supervisor has been asked to close. -/
  | awaiting (member closer : Nat)
  | finished
  deriving DecidableEq, Repr

/-- Every supervised worker has a stage of its own, but for the output, which they share. -/
structure ReceivingSession where
  members : List Supervised
  output : Pipe (Envelope Received)
  /-- Milliseconds. -/
  now : Nat
  printer : Printer
  phase : ReceivingPhase
  result : Option (Except ConsumptionError Unit)

/-- The supervisor's task is given up, wherever it stands. -/
def Supervised.abort (s : Supervised) : Supervised :=
  { s with phase := .ended }

namespace ReceivingSession

def member (settings : Settings) (worker : Worker) (stage : Stage) : Supervised :=
  ((Supervised.initial worker (settings.retryDelay * 1000) stage).connect).2

def start (settings : Settings) (workers : List (Worker × Stage)) (printer : Printer) :
    ReceivingSession :=
  ⟨workers.map fun (worker, stage) => member settings worker stage, .empty settings.outputBuffer, 0,
    printer, .consuming, none⟩

/-- The worker that makes the taps of one broker. After a failed setup it pauses as long as a
supervisor does between dials. -/
def tapWorker (settings : Settings) (spec : TapSpec) : Worker :=
  .tap spec.bindings (settings.retryDelay * 1000)

def memberStep (pick : Pick) (s : ReceivingSession) (index : Nat) (task : Task) :
    Option ReceivingSession := do
  let member ← s.members[index]?
  let stage := { member.stage with output := s.output, now := s.now }
  let member ← { member with stage := stage }.step pick task
  return { s with members := s.members.set index member, output := member.stage.output }

/-- A worker is there for as long as its supervisor runs, so the pipe ends with the last of them. -/
def received (s : ReceivingSession) : Poll (Option (Envelope Received)) × Pipe (Envelope Received) :=
  { s.output with sending := s.members.any Supervised.isRunning }.receive

def conclude (s : ReceivingSession) (result : Except ConsumptionError Unit) : ReceivingSession :=
  { s with output := s.output.dropReceiver, phase := .closing 0, result := some result }

def consumeStep (s : ReceivingSession) : Option ReceivingSession :=
  match s.received with
  | (.pending, _) => none
  | (.ready none, _) => some (s.conclude (.ok ()))
  | (.ready (some envelope), output) =>
    let s := { s with output := output }
    match s.printer.accept envelope with
    | (.ok (), printer) => some { s with printer := printer }
    | (.error e, printer) => some ({ s with printer := printer }.conclude (.error e))

/-- The session's own next step; none if it cannot go on. A supervisor that was never connected is not
closed but given up. -/
def ownStep (pick : Pick) (s : ReceivingSession) : Option ReceivingSession :=
  match s.phase with
  | .consuming => s.consumeStep
  | .closing index =>
    match s.members[index]? with
    | none => some { s with phase := .finished }
    | some member =>
      if member.everConnected then
        some { s with
          members := s.members.set index (member.requestClose pick)
          phase := .awaiting index member.closers.length }
      else
        some { s with members := s.members.set index member.abort, phase := .closing (index + 1) }
  | .awaiting index closer =>
    match (s.members[index]?).bind fun member => member.closers[closer]? with
    | some (.finished _) => some { s with phase := .closing (index + 1) }
    | _ => none
  | .finished => none

/-- The user wants no more; of no effect once the consumption has ended. -/
def interrupt (s : ReceivingSession) : ReceivingSession :=
  match s.phase with
  | .consuming => s.conclude (.ok ())
  | _ => s

def advance (s : ReceivingSession) : Option ReceivingSession :=
  (s.ownStep .first).or <|
    s.members.zipIdx.findSome? fun (member, index) =>
      member.tasks.findSome? (s.memberStep .first index)

def settled (s : ReceivingSession) : ReceivingSession :=
  settle advance ample s

def deadline? (s : ReceivingSession) : Option Nat :=
  (s.members.filterMap Supervised.deadline?).min?

end ReceivingSession

end ExchangeTap
