import ExchangeTap.Worker.Run

namespace ExchangeTap

structure Rehearsal where
  worker : Worker
  stage : Stage
  run : Option Run
  result : Option Action
  epochs : Nat

namespace Rehearsal

def start (r : Rehearsal) : Option (Except BrokerError Unit) × Rehearsal :=
  if r.run.isSome then (none, r)
  else
    match r.stage.beginDial.finishDial with
    | (.error e, stage) => (some (.error e), { r with stage := stage })
    | (.ok (), stage) =>
      (some (.ok ()),
        { r with
          stage := stage.record .epochStarted
          run := some (r.worker.start r.epochs)
          epochs := r.epochs + 1 })

def advance (r : Rehearsal) : Option Rehearsal :=
  r.run.bind fun run =>
    match run.result? with
    | some action =>
      some { r with stage := r.stage.record (.epochEnded action), run := none, result := some action }
    | none =>
      ((run.step .first r.stage).or (run.mergeStep r.stage)).map fun (run, stage) =>
        { r with run := some run, stage := stage }

def settled (r : Rehearsal) : Rehearsal :=
  settle advance ample r

def deadline? (r : Rehearsal) : Option Nat :=
  r.run.bind Run.deadline?

end Rehearsal

end ExchangeTap
