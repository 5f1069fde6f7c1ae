import ExchangeTap.Broker.Simulated
import ExchangeTap.Control.Path
import ExchangeTap.Log
import ExchangeTap.Pipe

/-! What the tasks of one supervised worker share: the broker, the control path, the pipes to the
outside, the clock, and the journal of all that happened. -/

namespace ExchangeTap

inductive Reader where
  | supervisor
  | worker
  | merge
  deriving DecidableEq, Repr

inductive Event where
  | logged (entry : LogEntry)
  | dialAttempted
  | dialSucceeded
  | channelOpened (number : Nat)
  | channelRefused (error : BrokerError)
  /-- An operation has reached the broker. -/
  | executed (channel : Nat) (op : Operation) (result : Except BrokerError Unit)
  /-- An operation was tried on a channel that was closed already. -/
  | rebuffed (channel : Nat) (op : Operation)
  | connectionClosed (result : Except BrokerError Unit)
  | epochStarted
  | epochEnded (action : Action)
  | signalSent (signal : Signal)
  | signalTaken (signal : Signal) (reader : Reader)
  /-- An envelope has gone to the output; a delivery came in by the input of that number. -/
  | handedOver (input : Option Nat) (envelope : Envelope Received)
  | noted (text : String)

structure Stage where
  broker : Broker
  control : ControlPath Reader
  output : Pipe (Envelope Received)
  feed : Pipe Outbound
  /-- Milliseconds. -/
  now : Nat
  /-- The suffixes that names are made unique with, and how many of them are used. -/
  suffix : Nat → String
  suffixesUsed : Nat
  /-- The latest event comes first. -/
  journal : List Event

namespace Stage

def initial (broker : Broker) (capacity : Nat) (suffix : Nat → String) : Stage :=
  ⟨broker, .empty, .empty capacity, .empty capacity, 0, suffix, 0, []⟩

def record (s : Stage) (e : Event) : Stage :=
  { s with journal := e :: s.journal }

def log (s : Stage) (entry : LogEntry) : Stage :=
  s.record (.logged entry)

@[simp] theorem record_broker (s : Stage) (e : Event) : (s.record e).broker = s.broker := rfl

@[simp] theorem record_control (s : Stage) (e : Event) : (s.record e).control = s.control := rfl

@[simp] theorem record_output (s : Stage) (e : Event) : (s.record e).output = s.output := rfl

@[simp] theorem record_journal (s : Stage) (e : Event) : (s.record e).journal = e :: s.journal := rfl

@[simp] theorem log_eq_record (s : Stage) (entry : LogEntry) :
    s.log entry = s.record (.logged entry) := rfl

def beginDial (s : Stage) : Stage :=
  s.record .dialAttempted

def finishDial (s : Stage) : Except BrokerError Unit × Stage :=
  match s.broker.dial with
  | (.ok (), broker) => (.ok (), { s with broker := broker }.record .dialSucceeded)
  | (.error e, broker) => (.error e, { s with broker := broker })

def closeConnection (s : Stage) : Except BrokerError Unit × Stage :=
  let (result, broker) := s.broker.close
  (result, { s with broker := broker }.record (.connectionClosed result))

def openChannel (s : Stage) : Except BrokerError Channel × Stage :=
  match s.broker.openChannel with
  | (.ok channel, broker) =>
    (.ok channel, { s with broker := broker }.record (.channelOpened channel.number))
  | (.error e, broker) => (.error e, { s with broker := broker }.record (.channelRefused e))

/-- An operation on a channel, which is handed back as the operation leaves it. -/
def execute (s : Stage) (channel : Channel) (op : Operation) :
    Except BrokerError Unit × Channel × Stage :=
  if channel.closed then
    (.error Broker.channelClosed, channel, s.record (.rebuffed channel.number op))
  else
    let (result, broker) := s.broker.execute op
    (result, channel.after result,
      { s with broker := broker }.record (.executed channel.number op result))

def mint (s : Stage) : String × Stage :=
  (s.suffix s.suffixesUsed, { s with suffixesUsed := s.suffixesUsed + 1 })

def pollControl (s : Stage) (r : Reader) : Poll (Option Signal) × Stage :=
  match s.control.poll r with
  | (.ready (some signal), control) =>
    (.ready (some signal), { s with control := control }.record (.signalTaken signal r))
  | (result, control) => (result, { s with control := control })

def cancelControl (s : Stage) (r : Reader) : Stage :=
  { s with control := s.control.cancel r }

def offer (s : Stage) (signal : Signal) : Offer × Stage :=
  match s.control.offer signal with
  | (.accepted, control) => (.accepted, { s with control := control }.record (.signalSent signal))
  | (.full, control) => (.full, { s with control := control })

/-- The stage after waiting for control in vain; none if the wait had begun before. -/
def awaiting (before after : Stage) : Option Stage :=
  if after.control = before.control then none else some after

inductive Handing where
  | done (stage : Stage)
  | full
  | closed

def hand (s : Stage) (input : Option Nat) (envelope : Envelope Received) : Handing :=
  match s.output.send envelope with
  | .sent output => .done ({ s with output := output }.record (.handedOver input envelope))
  | .full => .full
  | .closed => .closed

def stopReading (s : Stage) (index : Nat) : Stage :=
  { s with
    broker.consumers :=
      s.broker.consumers.modify index fun c => { c with reading := false, inbox := [] } }

end Stage

end ExchangeTap
