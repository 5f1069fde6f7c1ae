import ExchangeTap.Worker.Stage

namespace ExchangeTap

/-- What the surroundings of a supervised worker may do at any time. -/
inductive World where
  /-- The broker makes up its mind which operations, dials, channels and closings it refuses, and
  whether connections report their loss. -/
  | plan (refusals : List Refusal) (dials channels : List (Option BrokerError))
      (close : Option BrokerError) (reports : Bool)
  | drop
  | deliver (chosen : Consumer → Bool) (item : Except BrokerError Delivery)
  | output (pipe : Pipe (Envelope Received))
  | feed (message : Outbound)
  | endFeed
  | pass (millis : Nat)

def World.isOutside : World → Bool
  | plan _ _ _ _ _ | drop | deliver _ _ | pass _ => true
  | output _ | feed _ | endFeed => false

namespace Stage

def undergo (s : Stage) : World → Stage
  | .plan refusals dials channels close reports =>
    { s with broker := { s.broker with
        refusals := refusals
        refusedDials := dials
        refusedChannels := channels
        refusedClose := close
        reportsLoss := reports } }
  | .drop => { s with broker := s.broker.drop }
  | .deliver chosen item => { s with broker := (s.broker.deliver chosen item).2 }
  | .output pipe => { s with output := pipe }
  | .feed message =>
    if s.feed.sending then
      match s.feed.send message with
      | .sent feed => { s with feed := feed }
      | .full | .closed => s
    else s
  | .endFeed => { s with feed := s.feed.dropSender }
  | .pass millis => { s with now := s.now + millis }

@[simp] theorem undergo_control (s : Stage) (move : World) :
    (s.undergo move).control = s.control := by
  cases move with
  | feed message =>
      simp only [undergo]
      split
      · split <;> rfl
      · rfl
  | _ => rfl

@[simp] theorem undergo_journal (s : Stage) (move : World) :
    (s.undergo move).journal = s.journal := by
  cases move with
  | feed message =>
      simp only [undergo]
      split
      · split <;> rfl
      · rfl
  | _ => rfl

end Stage

end ExchangeTap
