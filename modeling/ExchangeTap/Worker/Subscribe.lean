import ExchangeTap.Worker.Forward

namespace ExchangeTap

inductive SubscribePhase where
  | opening
  | consuming (channel : Channel)
  | reporting (error : TapError)
  | forwarding (forward : Forward)
  | stopping (action : Action)
  | finished (action : Action)

structure SubscribeRun where
  phase : SubscribePhase
  consumers : List Nat
  fanIn : Option (FanIn Item)

namespace SubscribeRun

def start : SubscribeRun :=
  ⟨.opening, [], none⟩

def mergeEnded (run : SubscribeRun) : Bool :=
  match run.fanIn with
  | none => true
  | some fanIn => !fanIn.merge.isRunning

/-- A refused consumption is reported and ends the run, unless the connection was lost. -/
def refused (run : SubscribeRun) (queue : String) (e : BrokerError) (stage : Stage) :
    SubscribeRun × Stage :=
  if e.isConnectionClosed then
    ({ run with phase := .finished .reconnect }, stage.log (.lostBeforeConsuming e))
  else
    ({ run with phase := .reporting (.consume queue e) }, stage.log (.consumingFailed queue e))

def step (queue : String) (run : SubscribeRun) (stage : Stage) : Option (SubscribeRun × Stage) :=
  match run.phase with
  | .opening =>
    match stage.openChannel with
    | (.error e, stage) =>
      some ({ run with phase := .finished .reconnect }, stage.log (.channelNotOpened e))
    | (.ok channel, stage) => some ({ run with phase := .consuming channel }, stage)
  | .consuming channel =>
    let (suffix, stage) := stage.mint
    let consumer := stage.broker.consumers.length
    match stage.execute channel (.consume queue (Tap.consumerTag suffix)) with
    | (.error e, _, stage) => some (run.refused queue e stage)
    | (.ok (), _, stage) =>
      some ({ run with
          consumers := [consumer]
          fanIn := some (FanIn.start 2)
          phase := .forwarding .waiting }, stage.log (.subscribed queue))
  | .reporting error =>
    match stage.hand none (.failed error) with
    | .full => none
    | .closed => some ({ run with phase := .finished .stop }, stage)
    | .done stage => some ({ run with phase := .finished .stop }, stage)
  | .forwarding forward =>
    match run.fanIn with
    | none => none
    | some fanIn =>
      match forward.step fanIn stage with
      | none => none
      | some (.continue next, fanIn, stage) =>
        some ({ run with fanIn := some fanIn, phase := .forwarding next }, stage)
      | some (.leave action, fanIn, stage) =>
        some ({ run with fanIn := some fanIn.stop, phase := .stopping action }, stage)
  | .stopping action =>
    if run.mergeEnded then some ({ run with phase := .finished action }, stage) else none
  | .finished _ => none

end SubscribeRun

end ExchangeTap
