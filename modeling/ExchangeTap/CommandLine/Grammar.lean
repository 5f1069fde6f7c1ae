namespace ExchangeTap

namespace CommandLine

/-- Why a command line is not carried out. Asking for help or for the version counts as well. -/
inductive UsageError where
  | argumentConflict
  | displayHelp
  | displayHelpOnMissingArgument
  | displayVersion
  | invalidSubcommand
  | invalidValue
  | missingRequiredArgument
  | missingSubcommand
  | tooManyValues
  | unknownArgument
  deriving DecidableEq, Repr

def UsageError.message : UsageError → String
  | argumentConflict => "an option is given more than once"
  | displayHelp | displayHelpOnMissingArgument =>
    "Usage: exchangetap [--verbose] [--log-json] <tap|sub|pub|info|help> [OPTIONS] [ARGS]"
  | displayVersion => "exchangetap"
  | invalidSubcommand => "unknown command"
  | invalidValue => "an option lacks its value"
  | missingRequiredArgument => "a required argument is missing"
  | missingSubcommand => "a command is missing"
  | tooManyValues => "a flag takes no value"
  | unknownArgument => "unexpected argument"

def UsageError.exitCode : UsageError → Nat
  | displayHelp | displayVersion => 0
  | _ => 2

inductive Parameter where
  | help
  | version
  | verbose
  | logJson
  | bindings
  | queue
  | uri
  | uris
  | json
  | saveDirectory
  | exchange
  | routingKey
  | contentType
  | file
  | jsonLines
  | api
  deriving DecidableEq, Repr

namespace Parameter

def long? : Parameter → Option String
  | help => some "help"
  | version => some "version"
  | verbose => some "verbose"
  | logJson => some "log-json"
  | uri | uris => some "uri"
  | json => some "json"
  | saveDirectory => some "save-dir"
  | exchange => some "exchange"
  | routingKey => some "routing-key"
  | contentType => some "content-type"
  | jsonLines => some "json-lines"
  | api => some "api"
  | bindings | queue | file => none

def short? : Parameter → Option Char
  | help => some 'h'
  | version => some 'V'
  | verbose => some 'v'
  | exchange => some 'e'
  | routingKey => some 'k'
  | _ => none

def takesValue : Parameter → Bool
  | help | version | verbose | logJson | json | jsonLines => false
  | _ => true

def mayRepeat : Parameter → Bool
  | bindings | uris => true
  | _ => false

def isPath : Parameter → Bool
  | saveDirectory | file => true
  | _ => false

end Parameter

inductive Verb where
  | tap
  | sub
  | pub
  | info
  deriving DecidableEq, Repr

/-- The words that take the place of a command. -/
inductive Word where
  | verb (verb : Verb)
  | help
  deriving DecidableEq, Repr

/-- What is known in one part of the command line: before the command, or behind it. -/
structure Level where
  options : List Parameter
  operand : Option Parameter
  words : List (String × Word)
  deriving Repr

namespace Level

def long? (level : Level) (name : String) : Option Parameter :=
  level.options.find? (·.long? = some name)

def short? (level : Level) (letter : Char) : Option Parameter :=
  level.options.find? (·.short? = some letter)

def word? (level : Level) (text : String) : Option Word :=
  level.words.lookup text

def globals : List Parameter :=
  [.verbose, .logJson, .help]

def top : Level :=
  ⟨.version :: globals, none,
    [("tap", .verb .tap), ("sub", .verb .sub), ("pub", .verb .pub), ("info", .verb .info),
      ("help", .help)]⟩

def ofVerb : Verb → Level
  | .tap => ⟨[.uris, .json, .saveDirectory] ++ globals, some .bindings, []⟩
  | .sub => ⟨[.uri, .json, .saveDirectory] ++ globals, some .queue, []⟩
  | .pub => ⟨[.exchange, .routingKey, .contentType, .jsonLines, .uri] ++ globals, some .file, []⟩
  | .info => ⟨[.api, .json] ++ globals, none, []⟩

end Level

end CommandLine

end ExchangeTap
