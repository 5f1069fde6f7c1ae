import ExchangeTap.CommandLine.Command
import ExchangeTap.Message.Replay
import ExchangeTap.Session.Publishing
import ExchangeTap.Topology.Client
import ExchangeTap.Topology.Report

/-! The program works on a broker held in memory, so a receiving session is over as soon as its
workers have settled. -/

namespace ExchangeTap.Program

def suffix (number : Nat) : String :=
  let digits := Nat.toDigits 16 number
  String.ofList (List.replicate (32 - digits.length) '0' ++ digits)

def stage (settings : Settings) : Stage :=
  .initial .initial settings.outputBuffer suffix

def nobody : Topology.Transport :=
  fun _ => .error "connection refused"

def fail (message : String) : IO UInt32 := do
  IO.eprintln ("Error: " ++ message)
  return 1

def printLog (member : Supervised) : IO Unit := do
  for event in member.stage.journal.reverse do
    match event with
    | .logged entry => IO.eprintln entry.line
    | _ => pure ()

def printer (output : CommandLine.OutputOptions) : Except String Printer :=
  Printer.create (if output.json then .jsonLines else .plain)
    (output.saveDirectory.map fun path => ⟨path, some []⟩)

def receive (settings : Settings) (workers : List Worker) (output : CommandLine.OutputOptions) :
    IO UInt32 := do
  match printer output with
  | .error message => fail message
  | .ok printer =>
    let session := ReceivingSession.start settings (workers.map (·, stage settings)) printer
    let session := session.settled.interrupt.settled
    IO.print session.printer.text
    session.members.forM printLog
    match session.result with
    | some (.error e) => fail e.message
    | _ => return 0

def publish (settings : Settings) (messages : List Outbound) : IO UInt32 := do
  let session := (PublishingSession.start settings (stage settings) messages).settled
  printLog session.member
  match session.phase with
  | .finished (.error e) => fail e.message
  | _ => return 0

def input (file : Option String) : IO (Except String (List UInt8)) := do
  let path := file.getD "/dev/stdin"
  try
    return .ok (← IO.FS.readBinFile path).toList
  catch _ => return .error ("Failed to open file: " ++ path)

def info (settings : Settings) (api : Option String) (json : Bool) : IO UInt32 := do
  match Topology.Client.ofUri (api.getD settings.apiUri) with
  | .error e => fail e.message
  | .ok client =>
    match client.brokerInfo nobody with
    | .error e => fail ("Failed to query " ++ client.baseUrl ++ ": " ++ e.message)
    | .ok found =>
      if json then IO.println (Topology.BrokerInfo.codec.encodePretty found)
      else IO.print found.report
      return 0

def run (settings : Settings) : CommandLine.Command → IO UInt32
  | .tap bindings uris output =>
    match TapSpec.ofArguments bindings uris settings.amqpUri with
    | .error e => fail e.message
    | .ok specs => receive settings (specs.map (ReceivingSession.tapWorker settings)) output
  | .sub queue _ output => receive settings [.subscribe queue] output
  | .pub exchange routingKey contentType file jsonLines _ => do
    match ← input file with
    | .error message => fail message
    | .ok content =>
      match Replay.read ⟨jsonLines, exchange, routingKey, contentType⟩ content with
      | .error e => fail e.message
      | .ok messages => publish settings messages
  | .info api json => info settings api json

def settings : IO (Except SettingsError Settings) := do
  let values ← Settings.names.mapM fun name => return (name, ← IO.getEnv name)
  return Settings.read fun name => (values.lookup name).join

end ExchangeTap.Program

open ExchangeTap in
def main (arguments : List String) : IO UInt32 := do
  match CommandLine.Invocation.ofArguments arguments with
  | .error e =>
    if e.exitCode = 0 then IO.println e.message else IO.eprintln ("error: " ++ e.message)
    return e.exitCode.toUInt32
  | .ok invocation =>
    match ← Program.settings with
    | .error e => Program.fail e.message
    | .ok settings => Program.run settings invocation.command
