import ExchangeTap.Failure
import ExchangeTap.Text.Pieces

namespace ExchangeTap

structure Binding where
  exchange : String
  key : String
  deriving DecidableEq, Repr

namespace Binding

def text (b : Binding) : String :=
  b.exchange ++ ":" ++ b.key

/-- A binding has exactly one colon. -/
def parseChars (spec : List Char) : Except TapError Binding :=
  match Text.pieces (· == ':') spec with
  | [exchange, key] => .ok ⟨String.ofList exchange, String.ofList key⟩
  | _ => .error (.invalidBinding (String.ofList spec))

def parse (spec : String) : Except TapError Binding :=
  parseChars spec.toList

def parseList (specs : String) : Except TapError (List Binding) :=
  (Text.pieces (· == ',') specs.toList).mapM parseChars

end Binding

end ExchangeTap
