import ExchangeTap.Proofs.Play
import ExchangeTap.Worker.Run

namespace ExchangeTap

def Event.isOnChannel : Event → Bool
  | channelOpened _ | channelRefused _ | executed _ _ _ | rebuffed _ _ => true
  | _ => false

inductive Turn where
  | worker (pick : Pick)
  | merge
  /-- The stage becomes another one. What is told of it is not about channels. -/
  | elsewhere (stage : Stage) (told : List Event)

namespace Run

def take : Turn → Run × Stage → Option (Run × Stage)
  | .worker pick, (run, s) => run.step pick s
  | .merge, (run, s) => run.mergeStep s
  | .elsewhere stage told, (run, s) =>
    some (run, { stage with journal := told.filter (!·.isOnChannel) ++ s.journal })

end Run

end ExchangeTap
