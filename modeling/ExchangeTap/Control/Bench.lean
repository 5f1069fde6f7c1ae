import ExchangeTap.Control.Path

namespace ExchangeTap

structure ControlBench where
  path : ControlPath Nat
  tasks : List (Nat × Bool)
  stream : Option (Option Nat)
  nextReader : Nat
  deriving DecidableEq, Repr

namespace ControlBench

def start : ControlBench :=
  ⟨.empty, [], none, 0⟩

def send (b : ControlBench) (s : Signal) : Option Offer × ControlBench :=
  if b.path.senderAlive then
    (some (b.path.offer s).1, { b with path := (b.path.offer s).2 })
  else (none, b)

def dropSender (b : ControlBench) : ControlBench :=
  { b with path := b.path.dropSender }

def tryTake (b : ControlBench) : Option Signal × ControlBench :=
  (b.path.tryTake.1, { b with path := b.path.tryTake.2 })

def runTasks (path : ControlPath Nat) : List (Nat × Bool) → List (Nat × Bool) × ControlPath Nat
  | [] => ([], path)
  | (reader, true) :: rest =>
    let (tasks, path) := runTasks path rest
    ((reader, true) :: tasks, path)
  | (reader, false) :: rest =>
    let (result, path) := path.poll reader
    let (tasks, path) := runTasks path rest
    ((reader, result != .pending) :: tasks, path)

/-- Each round lets at least one more task finish, or is the last to change anything. -/
def settled (b : ControlBench) : ControlBench :=
  settle (fun b =>
    let (tasks, path) := runTasks b.path b.tasks
    if tasks = b.tasks ∧ path = b.path then none else some { b with tasks := tasks, path := path })
    ample b

def receive (b : ControlBench) : Poll (Option Signal) × ControlBench :=
  let reader := b.nextReader
  let b := { b with nextReader := reader + 1 }
  match b.path.poll reader with
  | (.ready result, path) => (.ready result, settled { b with path := path })
  | (.pending, path) =>
    let b := settled { b with path := path }
    match b.path.poll reader with
    | (.ready result, path) => (.ready result, settled { b with path := path })
    | (.pending, path) => (.pending, settled { b with path := path.cancel reader })

def wait (b : ControlBench) : ControlBench :=
  settled { b with tasks := b.tasks ++ [(b.nextReader, false)], nextReader := b.nextReader + 1 }

def cancel (b : ControlBench) : ControlBench :=
  { b with
    path := b.tasks.foldl (fun path task => path.cancel task.1) b.path
    tasks := [] }

def dropStream (b : ControlBench) : ControlBench :=
  match b.stream with
  | some (some reader) => { b with path := b.path.cancel reader, stream := none }
  | _ => { b with stream := none }

def openStream (b : ControlBench) : ControlBench :=
  { b.dropStream with stream := some none }

def next (b : ControlBench) : Option (Poll (Option Signal)) × ControlBench :=
  match b.stream with
  | none => (none, b)
  | some attempt =>
    let reader := attempt.getD b.nextReader
    let b := { b with nextReader := max b.nextReader (reader + 1) }
    let go (b : ControlBench) : Poll (Option Signal) × ControlBench :=
      match b.path.poll reader with
      | (.ready result, path) => (.ready result, { b with path := path, stream := some none })
      | (.pending, path) => (.pending, { b with path := path, stream := some (some reader) })
    match go b with
    | (.ready result, b) => (some (.ready result), settled b)
    | (.pending, b) =>
      let (result, b) := go (settled b)
      (some result, settled b)

end ControlBench

end ExchangeTap
