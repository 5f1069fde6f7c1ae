import ExchangeTap.Worker.Stage

namespace ExchangeTap

inductive PublishPhase where
  | opening
  | ready (channel : Channel)
  /-- A refused message has closed the channel. -/
  | reopening
  | finished (action : Action)

structure PublishRun where
  phase : PublishPhase

namespace PublishRun

def start : PublishRun :=
  ⟨.opening⟩

def publish (channel : Channel) (message : Outbound) (stage : Stage) : PublishRun × Stage :=
  match stage.execute channel (.publish message) with
  | (.ok (), channel, stage) => (⟨.ready channel⟩, stage)
  | (.error e, _, stage) =>
    (⟨.reopening⟩, stage.log (.publishFailed message.exchange message.routingKey e))

/-- The worker goes on by one step; none if it cannot. A signal comes before a message. -/
def step (run : PublishRun) (stage : Stage) : Option (PublishRun × Stage) :=
  match run.phase with
  | .opening =>
    match stage.openChannel with
    | (.error e, stage) => some (⟨.finished .reconnect⟩, stage.log (.channelNotOpened e))
    | (.ok channel, stage) => some (⟨.ready channel⟩, stage.log .readyToPublish)
  | .ready channel =>
    match stage.pollControl .worker with
    | (.ready (some .reconnect), stage) => some (⟨.finished .reconnect⟩, stage)
    | (.ready _, stage) => some (⟨.finished .stop⟩, stage)
    | (.pending, after) =>
      match after.feed.receive with
      | (.ready (some message), feed) =>
        some (publish channel message ({ after with feed := feed }.cancelControl .worker))
      | (.ready none, _) =>
        some (⟨.finished .stop⟩, (after.cancelControl .worker).log .feedClosed)
      | (.pending, _) => (stage.awaiting after).map (run, ·)
  | .reopening =>
    match stage.openChannel with
    | (.error e, stage) => some (⟨.finished .reconnect⟩, stage.log (.channelNotReopened e))
    | (.ok channel, stage) => some (⟨.ready channel⟩, stage)
  | .finished _ => none

end PublishRun

end ExchangeTap
