import ExchangeTap.Worker.Stage

namespace ExchangeTap

/-- What the worker does in one epoch: it waits for so many signals, opens so many channels, sleeps for
so many milliseconds and returns. -/
structure ScriptEpoch where
  signals : Nat
  channels : Nat
  sleep : Nat
  result : Action
  deriving DecidableEq, Repr

inductive ScriptPhase where
  | starting
  | waiting (signals : Nat)
  | opening (channels : Nat)
  | sleeping (until_ : Nat)
  | finished (action : Action)

structure ScriptRun where
  phase : ScriptPhase

namespace ScriptRun

def start : ScriptRun :=
  ⟨.starting⟩

def signalNote : Option Signal → String
  | some .reconnect => "Reconnect"
  | some .shutdown => "Shutdown"
  | none => "end"

def step (epoch : ScriptEpoch) (run : ScriptRun) (stage : Stage) : Option (ScriptRun × Stage) :=
  match run.phase with
  | .starting => some (⟨.waiting epoch.signals⟩, stage.record (.noted "run"))
  | .waiting 0 => some (⟨.opening epoch.channels⟩, stage)
  | .waiting (more + 1) =>
    match stage.pollControl .worker with
    | (.ready result, stage) => some (⟨.waiting more⟩, stage.record (.noted (signalNote result)))
    | (.pending, after) => (stage.awaiting after).map (run, ·)
  | .opening 0 => some (⟨.sleeping (stage.now + epoch.sleep)⟩, stage)
  | .opening (more + 1) =>
    match stage.openChannel with
    | (.ok _, stage) => some (⟨.opening more⟩, stage.record (.noted "channel"))
    | (.error e, stage) => some (⟨.opening more⟩, stage.record (.noted e.message))
  | .sleeping until_ =>
    if until_ ≤ stage.now then some (⟨.finished epoch.result⟩, stage) else none
  | .finished _ => none

end ScriptRun

end ExchangeTap
