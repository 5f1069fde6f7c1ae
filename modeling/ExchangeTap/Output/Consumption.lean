import ExchangeTap.Output.Printer

namespace ExchangeTap

inductive ConsumptionError where
  | worker (error : TapError)
  | output (message : String)
  deriving DecidableEq, Repr

def ConsumptionError.message : ConsumptionError → String
  | worker error => error.message
  | output message => message

namespace Printer

def accept (p : Printer) : Envelope Received → Except ConsumptionError Unit × Printer
  | .delivered message =>
    match p.print message with
    | (.ok (), p) => (.ok (), p)
    | (.error e, p) => (.error (.output e), p)
  | .failed e => if e.isTransient then (.ok (), p) else (.error (.worker e), p)

def consume (p : Printer) : List (Envelope Received) → Except ConsumptionError Unit × Printer
  | [] => (.ok (), p)
  | envelope :: rest =>
    match p.accept envelope with
    | (.ok (), p) => consume p rest
    | (.error e, p) => (.error e, p)

end Printer

/-- What others do to a directory: files come and go, and so may the directory itself. -/
abbrev Interference := Option (List (String × String)) → Option (List (String × String))

def Directory.disturbed (d : Directory) (others : Interference) : Directory :=
  { d with files := others d.files }

/-- An envelope, and what others have done since the one before it. -/
structure Arrival where
  others : Interference
  envelope : Envelope Received

def Arrival.alone (envelope : Envelope Received) : Arrival :=
  ⟨id, envelope⟩

namespace Printer

def meets (p : Printer) (arrival : Arrival) : Printer :=
  { p with directory := p.directory.map (·.disturbed arrival.others) }

/-- All envelopes up to the end of the output, while others use the directory as well. -/
def consumeBeside (p : Printer) : List Arrival → Except ConsumptionError Unit × Printer
  | [] => (.ok (), p)
  | arrival :: rest =>
    match (p.meets arrival).accept arrival.envelope with
    | (.ok (), p) => consumeBeside p rest
    | (.error e, p) => (.error e, p)

end Printer

end ExchangeTap
