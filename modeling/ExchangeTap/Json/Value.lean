import ExchangeTap.Json.Number
import ExchangeTap.Text.Keyed

namespace ExchangeTap

inductive Json where
  | null
  | boolean (value : Bool)
  | number (value : Json.Number)
  | text (value : String)
  | list (items : List Json)
  | object (members : List (String × Json))
  deriving Repr, Inhabited

namespace Json

def natural (n : Nat) : Json :=
  .number (.integer n)

def integer (n : Int) : Json :=
  .number (.integer n)

def texts (items : List String) : Json :=
  .list (items.map .text)

def optionalText : Option String → Json
  | none => .null
  | some value => .text value

def member? (name : String) : Json → Option Json
  | .object members => (members.reverse.find? (·.1 = name)).map (·.2)
  | _ => none

end Json

end ExchangeTap
