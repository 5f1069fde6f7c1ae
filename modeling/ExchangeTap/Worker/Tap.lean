import ExchangeTap.Binding
import ExchangeTap.Worker.Forward

/-! The taps are set up one after another, and every object that the broker accepts goes into a
ledger; whatever ends the epoch, the objects of the ledger are removed before it ends. The consumers
stay until then, because the broker deletes a queue of its own accord when its last consumer goes.
-/

namespace ExchangeTap

structure TapPlan where
  binding : Binding
  suffix : String
  deriving DecidableEq, Repr

namespace TapPlan

def exchange (p : TapPlan) : String :=
  Tap.exchangeName p.binding.exchange p.suffix

def queue (p : TapPlan) : String :=
  Tap.queueName p.binding.exchange p.suffix

/-- What is created for the tap, in this order, before its queue is consumed. -/
def resources (p : TapPlan) : List Resource :=
  [.exchange p.exchange,
    .exchangeBinding p.exchange p.binding.exchange p.binding.key,
    .queue p.queue,
    .queueBinding p.queue p.exchange]

def consumption (p : TapPlan) : Operation :=
  .consume p.queue (Tap.consumerTag p.suffix)

end TapPlan

/-- What follows a teardown: a pause after a failed setup, or the end of the epoch. -/
inductive Departure where
  | pause
  | leave (action : Action)
  deriving DecidableEq, Repr

inductive TapPhase where
  | opening (left : List Binding)
  /-- The resources that a tap still lacks, and the bindings to tap after it. -/
  | creating (plan : TapPlan) (channel : Channel) (lacking : List Resource) (left : List Binding)
  | reporting (error : TapError)
  | forwarding (forward : Forward)
  /-- The resources still to be removed, the channel for it if one is open, and whether the first of
  them has been tried before. -/
  | removing (left : List Resource) (channel : Option Channel) (retried : Bool)
      (departure : Departure)
  | pausing (until_ : Nat)
  | stopping (action : Action)
  | finished (action : Action)

structure TapRun where
  phase : TapPhase
  /-- What the broker has accepted, in order. -/
  ledger : List Resource
  /-- The consumers of the taps that are established, by their numbers at the broker. -/
  consumers : List Nat
  fanIn : Option (FanIn Item)
  /-- The channels of those taps. A consumer lives as long as its channel. -/
  channels : List Channel

namespace TapRun

def start (bindings : List Binding) : TapRun :=
  ⟨.opening bindings, [], [], none, []⟩

def fail (run : TapRun) (binding : Binding) (e : BrokerError) (stage : Stage) : TapRun × Stage :=
  ({ run with phase := .reporting (.setup binding.exchange e) },
    stage.log (.setupFailed binding.exchange e))

def tearDown (run : TapRun) (departure : Departure) : TapRun :=
  { run with phase := .removing (Resource.teardownOrder run.ledger) none false departure }

/-- One attempt to remove a resource, on a channel that is opened if there is none. -/
def remove (stage : Stage) (channel : Option Channel) (resource : Resource) :
    Except BrokerError Unit × Option Channel × Stage :=
  match channel with
  | some channel =>
    let (result, channel, stage) := stage.execute channel resource.removal
    (result, some channel, stage)
  | none =>
    match stage.openChannel with
    | (.error e, stage) => (.error e, none, stage)
    | (.ok channel, stage) =>
      let (result, channel, stage) := stage.execute channel resource.removal
      (result, some channel, stage)

def removalEntry (resource : Resource) : Except BrokerError Unit → LogEntry
  | .ok () => .resourceRemoved resource
  | .error e =>
    if e.isNotFound then .resourceAlreadyRemoved resource else .removalFailed resource e

/-- A failed attempt closes the channel; a stale channel allows a second attempt. -/
def removeStep (run : TapRun) (stage : Stage) (resource : Resource) (left : List Resource)
    (channel : Option Channel) (retried : Bool) (departure : Departure) : TapRun × Stage :=
  match remove stage channel resource with
  | (.ok (), channel, stage) =>
    ({ run with phase := .removing left channel false departure },
      stage.log (.resourceRemoved resource))
  | (.error e, _, stage) =>
    if e.isStaleChannel && !retried then
      ({ run with phase := .removing (resource :: left) none true departure },
        stage.log (.reopeningChannel resource))
    else
      ({ run with phase := .removing left none false departure },
        stage.log (removalEntry resource (.error e)))

def depart (run : TapRun) (setupRetry : Nat) (stage : Stage) : Departure → TapRun × Stage
  | .pause =>
    ({ run with ledger := [], channels := [], phase := .pausing (stage.now + setupRetry) },
      run.consumers.foldl Stage.stopReading stage)
  | .leave action =>
    ({ run with
        ledger := []
        fanIn := run.fanIn.map FanIn.stop
        phase := .stopping action }, stage)

def mergeEnded (run : TapRun) : Bool :=
  match run.fanIn with
  | none => true
  | some fanIn => !fanIn.merge.isRunning

def step (setupRetry : Nat) (pick : Pick) (run : TapRun) (stage : Stage) :
    Option (TapRun × Stage) :=
  match run.phase with
  | .opening [] =>
    some ({ run with
        fanIn := some (FanIn.start (run.consumers.length + 1))
        phase := .forwarding .waiting },
      stage.log (.tapping run.consumers.length))
  | .opening (binding :: left) =>
    match stage.openChannel with
    | (.error e, stage) => some (run.fail binding e stage)
    | (.ok channel, stage) =>
      let (suffix, stage) := stage.mint
      let plan : TapPlan := ⟨binding, suffix⟩
      some ({ run with phase := .creating plan channel plan.resources left }, stage)
  | .creating plan channel (resource :: lacking) left =>
    match stage.execute channel resource.creation with
    | (.error e, _, stage) => some (run.fail plan.binding e stage)
    | (.ok (), channel, stage) =>
      some ({ run with
          ledger := run.ledger ++ [resource]
          phase := .creating plan channel lacking left }, stage)
  | .creating plan channel [] left =>
    let consumer := stage.broker.consumers.length
    match stage.execute channel plan.consumption with
    | (.error e, _, stage) => some (run.fail plan.binding e stage)
    | (.ok (), channel, stage) =>
      some ({ run with
          consumers := run.consumers ++ [consumer]
          channels := run.channels ++ [channel]
          phase := .opening left },
        stage.log (.tapEstablished plan.binding.exchange plan.binding.key plan.exchange plan.queue))
  | .reporting error =>
    match stage.hand none (.failed error) with
    | .full => none
    | .closed => some (run.tearDown .pause, stage)
    | .done stage => some (run.tearDown .pause, stage)
  | .forwarding forward =>
    match run.fanIn with
    | none => none
    | some fanIn =>
      match forward.step fanIn stage with
      | none => none
      | some (.continue next, fanIn, stage) =>
        some ({ run with fanIn := some fanIn, phase := .forwarding next }, stage)
      | some (.leave action, fanIn, stage) =>
        some ({ run with fanIn := some fanIn }.tearDown (.leave action), stage)
  | .removing (resource :: left) channel retried departure =>
    some (run.removeStep stage resource left channel retried departure)
  | .removing [] _ _ departure => some (run.depart setupRetry stage departure)
  | .pausing until_ =>
    let overdue : Bool := until_ ≤ stage.now
    match pick, overdue with
    | .second, true => some ({ run with phase := .finished .reconnect }, stage.cancelControl .worker)
    | _, _ =>
      match stage.pollControl .worker with
      | (.ready (some .reconnect), stage) => some ({ run with phase := .finished .reconnect }, stage)
      | (.ready _, stage) => some ({ run with phase := .finished .stop }, stage)
      | (.pending, after) =>
        if overdue then
          some ({ run with phase := .finished .reconnect }, after.cancelControl .worker)
        else (stage.awaiting after).map (run, ·)
  | .stopping action =>
    if run.mergeEnded then some ({ run with channels := [], phase := .finished action }, stage)
    else none
  | .finished _ => none

end TapRun

end ExchangeTap
