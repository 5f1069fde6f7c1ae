import ExchangeTap.Proofs.Play
import ExchangeTap.Proofs.Worker.World
import ExchangeTap.Supervisor

/-! The worker of a supervisor is connected once; calls to close come at any time and in any number;
the tasks go on in any order, and the world around them changes as it likes. -/

namespace ExchangeTap

inductive Act where
  | connect
  | close (pick : Pick)
  | task (pick : Pick) (task : Task)
  | world (move : World)

namespace SupervisorPhase

def isSeeking : SupervisorPhase → Bool
  | draining | dialing | retrying _ => true
  | _ => false

def isListening : SupervisorPhase → Bool
  | dialing | retrying _ => true
  | _ => false

def isWatched : SupervisorPhase → Bool
  | working _ | joining _ => true
  | _ => false

def isConnected : SupervisorPhase → Bool
  | working _ | joining _ | closing _ => true
  | _ => false

def isEnded : SupervisorPhase → Bool
  | ended => true
  | _ => false

end SupervisorPhase

namespace Supervised

def fresh (worker : Worker) (retryDelay : Nat) (broker : Broker) (capacity : Nat)
    (suffix : Nat → String) : Supervised :=
  .initial worker retryDelay (.initial broker capacity suffix)

def perform : Act → Supervised → Option Supervised
  | .connect, s =>
    match s.phase with
    | .idle => some s.connect.2
    | _ => none
  | .close pick, s => some (s.requestClose pick)
  | .task pick task, s => s.step pick task
  | .world move, s => some { s with stage := s.stage.undergo move }

end Supervised

end ExchangeTap
