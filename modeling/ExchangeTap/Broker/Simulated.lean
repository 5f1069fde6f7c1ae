import ExchangeTap.Broker.Operation

/-! A broker held in memory, whose refusals follow a schedule. A refused operation closes its
channel, and a closed channel refuses whatever comes next. Deleting a queue ends its consumers. -/

namespace ExchangeTap

/-- Operations to be refused: of those that match, some are let pass first, then so many are
refused. -/
structure Refusal where
  kind : Option Operation.Kind
  subject : Option String
  skip : Nat
  times : Nat
  error : BrokerError
  deriving DecidableEq, Repr

def Refusal.applies (r : Refusal) (op : Operation) : Bool :=
  (match r.kind with
    | none => true
    | some kind => op.kind = kind) &&
  (match r.subject with
    | none => true
    | some subject => op.subject? = some subject)

def Refusal.answer (op : Operation) : List Refusal → Option BrokerError × List Refusal
  | [] => (none, [])
  | r :: rest =>
    if r.applies op then
      if 0 < r.skip then
        let (error, rest) := answer op rest
        (error, { r with skip := r.skip - 1 } :: rest)
      else if 0 < r.times then (some r.error, { r with times := r.times - 1 } :: rest)
      else
        let (error, rest) := answer op rest
        (error, r :: rest)
    else
      let (error, rest) := answer op rest
      (error, r :: rest)

structure Consumer where
  queue : String
  inbox : List (Except BrokerError Delivery)
  attached : Bool
  reading : Bool

def Consumer.isLive (c : Consumer) : Bool :=
  c.attached && c.reading

structure Channel where
  number : Nat
  closed : Bool
  deriving DecidableEq, Repr

def Channel.after (channel : Channel) : Except BrokerError Unit → Channel
  | .ok () => channel
  | .error _ => { channel with closed := true }

structure Broker where
  refusals : List Refusal
  /-- How the next dials fail, where they do; later ones succeed. -/
  refusedDials : List (Option BrokerError)
  refusedChannels : List (Option BrokerError)
  refusedClose : Option BrokerError
  reportsLoss : Bool
  /-- All consumers there have been, in the order in which they came. -/
  consumers : List Consumer
  deletedWhileConsumed : List String
  channels : Nat
  unbroken : Bool
  loss : Option BrokerError

namespace Broker

def initial : Broker :=
  ⟨[], [], [], none, true, [], [], 0, false, none⟩

def connectionRefused : BrokerError := .dial "connection refused"

def channelRefused : BrokerError := .connectionClosed "channel open refused"

def channelClosed : BrokerError := .channelClosed "channel already closed"

def connectionReset : BrokerError := .connectionClosed "connection reset by peer"

def dial (b : Broker) : Except BrokerError Unit × Broker :=
  match b.refusedDials with
  | some error :: rest => (.error error, { b with refusedDials := rest })
  | refused => (.ok (), { b with refusedDials := refused.tail, unbroken := true, loss := none })

def openChannel (b : Broker) : Except BrokerError Channel × Broker :=
  match b.refusedChannels with
  | some error :: rest => (.error error, { b with refusedChannels := rest })
  | refused =>
    (.ok ⟨b.channels, false⟩, { b with refusedChannels := refused.tail, channels := b.channels + 1 })

def detach (queue : String) (c : Consumer) : Consumer :=
  if c.queue = queue then { c with attached := false } else c

def apply (b : Broker) : Operation → Broker
  | .deleteQueue name =>
    { b with
      deletedWhileConsumed :=
        if b.consumers.any fun c => c.queue = name && c.isLive then b.deletedWhileConsumed ++ [name]
        else b.deletedWhileConsumed
      consumers := b.consumers.map (detach name) }
  | .consume queue _ => { b with consumers := b.consumers ++ [⟨queue, [], true, true⟩] }
  | _ => b

def execute (b : Broker) (op : Operation) : Except BrokerError Unit × Broker :=
  let (refusal, refusals) := Refusal.answer op b.refusals
  let b := { b with refusals := refusals }
  match refusal with
  | some error => (.error error, b)
  | none => (.ok (), b.apply op)

/-- Closing counts even when it is answered with an error. -/
def close (b : Broker) : Except BrokerError Unit × Broker :=
  (match b.refusedClose with
    | some error => .error error
    | none => .ok (),
    { b with
      refusedClose := none
      consumers := b.consumers.map fun c => { c with attached := false } })

def drop (b : Broker) : Broker :=
  if b.unbroken then { b with unbroken := false, loss := some connectionReset } else b

def consumed (b : Broker) : List String :=
  (b.consumers.filter Consumer.isLive).map (·.queue)

def deliver (b : Broker) (chosen : Consumer → Bool) (item : Except BrokerError Delivery) :
    Bool × Broker :=
  match b.consumers.findIdx? fun c => c.isLive && chosen c with
  | none => (false, b)
  | some index =>
    (true, { b with
      consumers := b.consumers.modify index fun c => { c with inbox := c.inbox ++ [item] } })

end Broker

end ExchangeTap
