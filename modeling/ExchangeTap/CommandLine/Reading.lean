import ExchangeTap.CommandLine.Grammar

/-! What belongs together is collected first and checked when the next thing starts. -/

namespace ExchangeTap.CommandLine

/-- How far a level has been read. -/
structure Reading where
  given : List (Parameter × List String)
  pending : Option (Parameter × List String)
  deriving DecidableEq, Repr

namespace Reading

def start : Reading := ⟨[], none⟩

def has (r : Reading) (p : Parameter) : Bool :=
  r.given.any (·.1 = p)

def values (r : Reading) (p : Parameter) : List String :=
  (r.given.filter (·.1 = p)).flatMap (·.2)

def value? (r : Reading) (p : Parameter) : Option String :=
  (r.values p).head?

def accept (r : Reading) (p : Parameter) (values : List String) : Except UsageError Reading :=
  if p.takesValue && values.isEmpty then .error .invalidValue
  else if p = .help then .error .displayHelp
  else if p = .version then .error .displayVersion
  else if !p.mayRepeat && r.has p then .error .argumentConflict
  else if p.isPath && values.contains "" then .error .invalidValue
  else .ok { r with given := r.given ++ [(p, values)] }

def settle (r : Reading) : Except UsageError Reading :=
  match r.pending with
  | none => .ok r
  | some (p, values) => accept { r with pending := none } p values

def give (r : Reading) (p : Parameter) (values : List String) : Except UsageError Reading :=
  match r.settle with
  | .error e => .error e
  | .ok r => r.accept p values

def collect (r : Reading) (p : Parameter) (values : List String) : Except UsageError Reading :=
  match r.settle with
  | .error e => .error e
  | .ok r => .ok { r with pending := some (p, values) }

def awaiting? (r : Reading) : Option Parameter :=
  match r.pending with
  | some (p, []) => some p
  | _ => none

def isTaken (r : Reading) (p : Parameter) : Bool :=
  r.has p || (r.pending.map (·.1)) == some p

def readLong (level : Level) (r : Reading) (name : String) (value : Option String) :
    Except UsageError Reading :=
  match level.long? name, value with
  | none, _ => .error .unknownArgument
  | some p, some value => if p.takesValue then r.give p [value] else .error .tooManyValues
  | some p, none => if p.takesValue then r.collect p [] else r.give p []

/-- Letters behind one dash: flags, up to an option that takes what is left as its value. -/
def readShort (level : Level) (r : Reading) : List Char → Except UsageError Reading
  | [] => .ok r
  | letter :: rest =>
    match level.short? letter with
    | none => .error .unknownArgument
    | some p =>
      if p.takesValue then
        match rest with
        | [] => r.collect p []
        | '=' :: value => r.give p [String.ofList value]
        | value => r.give p [String.ofList value]
      else
        match r.give p [] with
        | .error e => .error e
        | .ok r => readShort level r rest

def unexpected (level : Level) (onlyOperands : Bool) (argument : String) : UsageError :=
  if level.words.isEmpty || (onlyOperands && (level.word? argument).isSome) then .unknownArgument
  else .invalidSubcommand

def readOperand (level : Level) (onlyOperands : Bool) (r : Reading) (argument : String) :
    Except UsageError Reading :=
  match level.operand with
  | none => .error (unexpected level onlyOperands argument)
  | some p =>
    match p.mayRepeat, r.pending with
    | false, _ =>
      if r.isTaken p then .error (unexpected level onlyOperands argument)
      else r.collect p [argument]
    | true, some (q, values) =>
      if p = q then .ok { r with pending := some (p, values ++ [argument]) }
      else r.collect p [argument]
    | true, none => r.collect p [argument]

def splitValue : List Char → List Char × Option (List Char)
  | [] => ([], none)
  | '=' :: value => ([], some value)
  | c :: rest =>
    let (name, value) := splitValue rest
    (c :: name, value)

def readArgument (level : Level) (r : Reading) (argument : String) : Except UsageError Reading :=
  match argument.toList with
  | '-' :: '-' :: option =>
    let (name, value) := splitValue option
    r.readLong level (String.ofList name) (value.map String.ofList)
  | '-' :: letter :: letters => r.readShort level (letter :: letters)
  | _ =>
    match r.awaiting? with
    | some p => .ok { r with pending := some (p, [argument]) }
    | none => r.readOperand level false argument

def readOperands (level : Level) (r : Reading) : List String → Except UsageError Reading
  | [] => r.settle
  | argument :: rest =>
    match r.readOperand level true argument with
    | .error e => .error e
    | .ok r => readOperands level r rest

/-- The arguments of a level, up to a word that takes the place of a command, and what follows it. -/
def read (level : Level) (r : Reading) :
    List String → Except UsageError (Reading × Option (Word × List String))
  | [] => r.settle.map (·, none)
  | argument :: rest =>
    match if r.awaiting?.isSome then none else level.word? argument with
    | some word => .ok (r, some (word, rest))
    | none =>
      if argument = "--" then (r.readOperands level rest).map (·, none)
      else
        match r.readArgument level argument with
        | .error e => .error e
        | .ok r => read level r rest

end Reading

end ExchangeTap.CommandLine
