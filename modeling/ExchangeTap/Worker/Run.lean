import ExchangeTap.Worker.Publish
import ExchangeTap.Worker.Script
import ExchangeTap.Worker.Subscribe
import ExchangeTap.Worker.Tap

namespace ExchangeTap

inductive Worker where
  /-- Taps exchanges; after a failed setup it pauses for so many milliseconds. -/
  | tap (bindings : List Binding) (setupRetry : Nat)
  | subscribe (queue : String)
  | publish
  | script (epochs : List ScriptEpoch)
  deriving DecidableEq, Repr

inductive Run where
  | tap (setupRetry : Nat) (run : TapRun)
  | subscribe (queue : String) (run : SubscribeRun)
  | publish (run : PublishRun)
  | script (epoch : ScriptEpoch) (run : ScriptRun)

namespace Worker

/-- The last epoch of a script repeats. -/
def scriptEpoch (epochs : List ScriptEpoch) (number : Nat) : ScriptEpoch :=
  (epochs[number]?.or epochs.getLast?).getD ⟨0, 0, 0, .stop⟩

/-- The start of the worker's epoch of that number, counted from zero. -/
def start (number : Nat) : Worker → Run
  | tap bindings setupRetry => .tap setupRetry (.start bindings)
  | subscribe queue => .subscribe queue .start
  | publish => .publish .start
  | script epochs => .script (scriptEpoch epochs number) .start

end Worker

namespace Run

def step (pick : Pick) (run : Run) (stage : Stage) : Option (Run × Stage) :=
  match run with
  | tap setupRetry run =>
    (run.step setupRetry pick stage).map fun (run, stage) => (tap setupRetry run, stage)
  | subscribe queue run => (run.step queue stage).map fun (run, stage) => (subscribe queue run, stage)
  | publish run => (run.step stage).map fun (run, stage) => (publish run, stage)
  | script epoch run => (run.step epoch stage).map fun (run, stage) => (script epoch run, stage)

def mergeStep (run : Run) (stage : Stage) : Option (Run × Stage) :=
  match run with
  | tap setupRetry run =>
    run.fanIn.bind fun fanIn =>
      (fanIn.advance (Item.inputs run.consumers) stage).map fun (fanIn, stage) =>
        (tap setupRetry { run with fanIn := some fanIn }, stage)
  | subscribe queue run =>
    run.fanIn.bind fun fanIn =>
      (fanIn.advance (Item.inputs run.consumers) stage).map fun (fanIn, stage) =>
        (subscribe queue { run with fanIn := some fanIn }, stage)
  | publish _ | script _ _ => none

def result? : Run → Option Action
  | tap _ ⟨.finished action, _, _, _, _⟩ => some action
  | subscribe _ ⟨.finished action, _, _⟩ => some action
  | publish ⟨.finished action⟩ => some action
  | script _ ⟨.finished action⟩ => some action
  | _ => none

def deadline? : Run → Option Nat
  | tap _ ⟨.pausing until_, _, _, _, _⟩ => some until_
  | script _ ⟨.sleeping until_⟩ => some until_
  | _ => none

end Run

end ExchangeTap
