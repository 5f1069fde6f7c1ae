import ExchangeTap.FanIn.Merge

namespace ExchangeTap

inductive Source (T : Type) where
  | channel (items : List T) (opened listening : Bool)
  | fixed (items : List T)
  | failing (items : List T)
  deriving DecidableEq, Repr

namespace Source

def look : Source T → Glance T × Source T
  | .channel (item :: rest) opened listening => (.item item, .channel rest opened listening)
  | .channel [] true listening => (.nothing, .channel [] true listening)
  | .channel [] false listening => (.closed, .channel [] false listening)
  | .fixed (item :: rest) => (.item item, .fixed rest)
  | .fixed [] => (.closed, .fixed [])
  | .failing (item :: rest) => (.item item, .failing rest)
  | .failing [] => (.failure, .failing [])

def release : Source T → Source T
  | .channel _ opened _ => .channel [] opened false
  | .fixed _ => .fixed []
  | .failing _ => .failing []

/-- None if there is no open channel; otherwise whether somebody listens. -/
def push (item : T) : Source T → Option Bool × Source T
  | .channel items true true => (some true, .channel (items ++ [item]) true true)
  | .channel items true false => (some false, .channel items true false)
  | source => (none, source)

def close : Source T → Bool × Source T
  | .channel items true listening => (true, .channel items false listening)
  | source => (false, source)

def inputs : Inputs (List (Source T)) T where
  look sources input :=
    match sources[input]? with
    | some source => (source.look.1, sources.set input source.look.2)
    | none => (.closed, sources)
  release sources input :=
    match sources[input]? with
    | some source => sources.set input source.release
    | none => sources

end Source

structure FanInBench (T : Type) where
  fanIn : FanIn T
  sources : List (Source T)
  deriving DecidableEq, Repr

namespace FanInBench

def start (sources : List (Source T)) : FanInBench T :=
  ⟨FanIn.start sources.length, sources⟩

def advance (b : FanInBench T) : Option (FanInBench T) :=
  (b.fanIn.advance Source.inputs b.sources).map fun (fanIn, sources) => ⟨fanIn, sources⟩

def settled (b : FanInBench T) : FanInBench T :=
  settle advance ample b

def tryReceive (b : FanInBench T) : Poll (Option (Nat × T)) × FanInBench T :=
  (b.fanIn.receive.1, { b with fanIn := b.fanIn.receive.2 })

def receive (b : FanInBench T) : Poll (Option (Nat × T)) × FanInBench T :=
  match b.tryReceive with
  | (.pending, b) => b.settled.tryReceive
  | received => received

def push (b : FanInBench T) (input : Nat) (item : T) : Option Bool × FanInBench T :=
  match b.sources[input]? with
  | some source =>
    ((source.push item).1, { b with sources := b.sources.set input (source.push item).2 })
  | none => (none, b)

def close (b : FanInBench T) (input : Nat) : Option Bool × FanInBench T :=
  match b.sources[input]? with
  | some source => (some source.close.1, { b with sources := b.sources.set input source.close.2 })
  | none => (none, b)

def stop (b : FanInBench T) : FanInBench T :=
  { b with fanIn := b.fanIn.stop }

end FanInBench

end ExchangeTap
