import ExchangeTap.FanIn.Merge
import ExchangeTap.Worker.Stage

namespace ExchangeTap

/-- What the fan-in of a consuming worker carries. -/
inductive Item where
  | delivery (result : Except BrokerError Delivery)
  | signal (value : Signal)

namespace Item

/-- The consumers by their numbers at the broker, and the control path as the last input. -/
def inputs (consumers : List Nat) : Inputs Stage Item where
  look stage input :=
    match consumers[input]? with
    | some index =>
      match stage.broker.consumers[index]? with
      | none => (.closed, stage)
      | some consumer =>
        match consumer.inbox with
        | result :: rest =>
          (.item (.delivery result),
            { stage with
              broker.consumers :=
                stage.broker.consumers.set index { consumer with inbox := rest } })
        | [] => (if consumer.attached then .nothing else .closed, stage)
    | none =>
      match stage.pollControl .merge with
      | (.ready (some value), stage) => (.item (.signal value), stage)
      | (.ready none, stage) => (.closed, stage)
      | (.pending, stage) => (.nothing, stage)
  release stage input :=
    match consumers[input]? with
    | some index => stage.stopReading index
    | none => stage.cancelControl .merge

end Item

inductive Forward where
  | waiting
  /-- A message that the output has no room for yet, with the number of its input. -/
  | sending (input : Nat) (message : Received)

inductive Forward.Outcome where
  | continue (next : Forward)
  | leave (action : Action)

namespace Forward

/-- What becomes of an item of the fan-in. A delivery is received now, whenever the output takes it. -/
def accept (input : Nat) (item : Item) (stage : Stage) : Outcome × Stage :=
  match item with
  | .delivery (.ok delivery) => (.continue (.sending input ⟨delivery, .ofMillis stage.now⟩), stage)
  | .delivery (.error e) => (.continue .waiting, stage.log (.consumerFailed e))
  | .signal .shutdown => (.leave .stop, stage.log .shutdownRequested)
  | .signal .reconnect => (.leave .reconnect, stage.log .reconnectRequested)

def step (fanIn : FanIn Item) (stage : Stage) : Forward → Option (Outcome × FanIn Item × Stage)
  | .waiting =>
    match fanIn.receive with
    | (.pending, _) => none
    | (.ready none, fanIn) => some (.leave .stop, fanIn, stage)
    | (.ready (some (input, item)), fanIn) =>
      let (outcome, stage) := accept input item stage
      some (outcome, fanIn, stage)
  | .sending input message =>
    match stage.hand (some input) (.delivered message) with
    | .full => none
    | .closed => some (.leave .stop, fanIn, stage.log .outputClosed)
    | .done stage => some (.continue .waiting, fanIn, stage)

end Forward

end ExchangeTap
