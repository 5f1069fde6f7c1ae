import ExchangeTap.Binding

namespace ExchangeTap

/-- The exchanges to tap at one broker, in the order of their setup. -/
structure TapSpec where
  uri : String
  bindings : List Binding
  deriving DecidableEq, Repr

inductive TapSpecError where
  | uriCount (uris lists : Nat)
  | invalidBinding (error : TapError)
  | missingExchange (binding : Binding)
  deriving DecidableEq, Repr

def TapSpecError.message : TapSpecError → String
  | uriCount uris lists =>
    s!"{uris} URIs given for {lists} binding lists, expected 1 or {lists}"
  | invalidBinding error => error.message
  | missingExchange binding => "Missing exchange name in binding '" ++ binding.text ++ "'"

namespace TapSpec

/-- A list of bindings, none of which taps the default exchange. -/
def parseBindings (list : String) : Except TapSpecError (List Binding) :=
  match Binding.parseList list with
  | .error e => .error (.invalidBinding e)
  | .ok bindings =>
    match bindings.find? (·.exchange = "") with
    | some binding => .error (.missingExchange binding)
    | none => .ok bindings

/-- The brokers of so many lists: the default or the only one for all, or one each. -/
def brokers (lists : Nat) (uris : List String) (default : String) :
    Except TapSpecError (List String) :=
  match uris with
  | [] => .ok (List.replicate lists default)
  | [uri] => .ok (List.replicate lists uri)
  | uris => if uris.length = lists then .ok uris else .error (.uriCount uris.length lists)

def pair : List String → List String → Except TapSpecError (List TapSpec)
  | list :: lists, uri :: uris =>
    match parseBindings list with
    | .error e => .error e
    | .ok bindings => (pair lists uris).map (⟨uri, bindings⟩ :: ·)
  | _, _ => .ok []

def ofArguments (lists uris : List String) (default : String) :
    Except TapSpecError (List TapSpec) :=
  match brokers lists.length uris default with
  | .error e => .error e
  | .ok uris => pair lists uris

end TapSpec

end ExchangeTap
