import ExchangeTap.Session.Receiving

namespace ExchangeTap

inductive PublishingPhase where
  | feeding (left : List Outbound)
  /-- The worker has still to publish what the feed holds. -/
  | draining
  | stopping (closer : Nat)
  | finished (result : Except TapError Unit)

structure PublishingSession where
  member : Supervised
  phase : PublishingPhase

namespace PublishingSession

def start (settings : Settings) (stage : Stage) (messages : List Outbound) : PublishingSession :=
  ⟨ReceivingSession.member settings .publish
      { stage with feed := .empty settings.outputBuffer }, .feeding messages⟩

def endFeed (s : PublishingSession) : PublishingSession :=
  { s with member.stage.feed := s.member.stage.feed.dropSender, phase := .draining }

/-- The feed has a reader for as long as the supervisor runs. -/
def feedStep (s : PublishingSession) : List Outbound → Option PublishingSession
  | [] => some s.endFeed
  | message :: left =>
    if !s.member.isRunning then some s.endFeed
    else
      match s.member.stage.feed.send message with
      | .sent feed => some { s with member.stage.feed := feed, phase := .feeding left }
      | .full => none
      | .closed => some s.endFeed

def ownStep (s : PublishingSession) : Option PublishingSession :=
  match s.phase with
  | .feeding left => s.feedStep left
  | .draining =>
    s.member.outcome.map fun outcome =>
      { s with phase := .finished (Supervised.closeResult outcome) }
  | .stopping closer =>
    match s.member.closers[closer]? with
    | some (.finished result) => some { s with phase := .finished result }
    | _ => none
  | .finished _ => none

/-- The user wants no more. What was not fed yet stays unpublished. -/
def interrupt (pick : Pick) (s : PublishingSession) : PublishingSession :=
  let stopped (s : PublishingSession) : PublishingSession :=
    let s := s.endFeed
    if s.member.everConnected then
      { s with member := s.member.requestClose pick, phase := .stopping s.member.closers.length }
    else { s with member := s.member.abort, phase := .finished (.ok ()) }
  match s.phase with
  | .feeding _ | .draining => stopped s
  | .stopping _ | .finished _ => s

def memberStep (pick : Pick) (s : PublishingSession) (task : Task) : Option PublishingSession :=
  (s.member.step pick task).map fun member => { s with member := member }

def advance (s : PublishingSession) : Option PublishingSession :=
  s.ownStep.or (s.member.tasks.findSome? (s.memberStep .first))

def settled (s : PublishingSession) : PublishingSession :=
  settle advance ample s

end PublishingSession

end ExchangeTap
