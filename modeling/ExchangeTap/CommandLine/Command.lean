import ExchangeTap.CommandLine.Reading

namespace ExchangeTap.CommandLine

structure OutputOptions where
  json : Bool
  saveDirectory : Option String
  deriving DecidableEq, Repr

inductive Command where
  | tap (bindings uris : List String) (output : OutputOptions)
  | sub (queue : String) (uri : Option String) (output : OutputOptions)
  | pub (exchange routingKey contentType file : Option String) (jsonLines : Bool)
      (uri : Option String)
  | info (api : Option String) (json : Bool)
  deriving DecidableEq, Repr

structure Invocation where
  verbose : Bool
  logJson : Bool
  command : Command
  deriving DecidableEq, Repr

def Reading.output (r : Reading) : OutputOptions :=
  ⟨r.has .json, r.value? .saveDirectory⟩

/-- The command, if nothing that it needs is missing. A message has to know its exchange, unless each
line brings its own. -/
def Reading.command (r : Reading) : Verb → Except UsageError Command
  | .tap =>
    if r.has .bindings then .ok (.tap (r.values .bindings) (r.values .uris) r.output)
    else .error .missingRequiredArgument
  | .sub =>
    match r.value? .queue with
    | some queue => .ok (.sub queue (r.value? .uri) r.output)
    | none => .error .missingRequiredArgument
  | .pub =>
    if r.has .exchange || r.has .jsonLines then
      .ok (.pub (r.value? .exchange) (r.value? .routingKey) (r.value? .contentType)
        (r.value? .file) (r.has .jsonLines) (r.value? .uri))
    else .error .missingRequiredArgument
  | .info => .ok (.info (r.value? .api) (r.has .json))

def helpOn : List String → UsageError
  | [] => .displayHelp
  | [word] => if (Level.top.word? word).isSome then .displayHelp else .invalidSubcommand
  | _ => .invalidSubcommand

def missingCommand (r : Reading) : UsageError :=
  if r.given.isEmpty then .displayHelpOnMissingArgument else .missingSubcommand

def Invocation.ofArguments (arguments : List String) : Except UsageError Invocation :=
  match Reading.read .top .start arguments with
  | .error e => .error e
  | .ok (top, none) => .error (missingCommand top)
  | .ok (_, some (.help, rest)) => .error (helpOn rest)
  | .ok (top, some (.verb verb, rest)) =>
    match Reading.read (.ofVerb verb) .start rest with
    | .error e => .error e
    | .ok (r, _) =>
      (r.command verb).map fun command =>
        ⟨top.has .verbose || r.has .verbose, top.has .logJson || r.has .logJson, command⟩

end ExchangeTap.CommandLine
