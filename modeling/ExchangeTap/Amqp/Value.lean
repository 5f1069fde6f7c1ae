import ExchangeTap.Json.Value
import ExchangeTap.Text.Digits
import ExchangeTap.Text.Utf8

/-! JSON knows fewer types than the wire: integers come back as 64-bit integers, strings as long
strings, and byte arrays and decimals as a text that describes them. -/

namespace ExchangeTap

inductive AmqpValue where
  | boolean (value : Bool)
  | int8 (value : Int)
  | uint8 (value : Nat)
  | int16 (value : Int)
  | uint16 (value : Nat)
  | int32 (value : Int)
  | uint32 (value : Nat)
  | int64 (value : Int)
  /-- Single precision, by its bit pattern. -/
  | float (bits : UInt32)
  | double (value : Binary64)
  | decimal (scale value : Nat)
  | shortText (value : String)
  | longText (bytes : List UInt8)
  | list (items : List AmqpValue)
  /-- Seconds since 1 January 1970. -/
  | timestamp (value : Nat)
  | table (entries : List (String × AmqpValue))
  | bytes (bytes : List UInt8)
  | void
  deriving Repr

namespace AmqpValue

/-- A number that is no finite one is null in JSON. -/
def jsonOfDouble (x : Binary64) : Json :=
  if x.isFinite then .number (.float x) else .null

def describeBytes (bytes : List UInt8) : String :=
  let list := ", ".intercalate (bytes.map fun b => Digits.text b.toNat)
  s!"ByteArray(ByteArray([{list}]))"

def describeDecimal (scale value : Nat) : String :=
  "DecimalValue(DecimalValue \x7b scale: " ++ Digits.text scale ++ ", value: " ++
    Digits.text value ++ " \x7d)"

mutual

def toJson : AmqpValue → Json
  | boolean value => .boolean value
  | int8 value | int16 value | int32 value | int64 value => .integer value
  | uint8 value | uint16 value | uint32 value | timestamp value => .natural value
  | float bits => jsonOfDouble (.ofSingleBits bits)
  | double value => jsonOfDouble value
  | decimal scale value => .text (describeDecimal scale value)
  | shortText value => .text value
  | longText content => .text (Utf8.lossy content)
  | list items => .list (itemsToJson items)
  | table entries => .object (entriesToJson entries)
  | bytes content => .text (describeBytes content)
  | void => .null
termination_by structural value => value

def itemsToJson : List AmqpValue → List Json
  | [] => []
  | item :: rest => item.toJson :: itemsToJson rest
termination_by structural items => items

def entriesToJson : List (String × AmqpValue) → List (String × Json)
  | [] => []
  | (name, value) :: rest => (name, value.toJson) :: entriesToJson rest
termination_by structural entries => entries

end

/-- Integers beyond 64 bits with a sign become doubles. -/
def ofNumber : Json.Number → AmqpValue
  | .float value => double value
  | .integer value =>
    if -(2 ^ 63) ≤ value ∧ value < 2 ^ 63 then int64 value
    else
      let magnitude := Binary64.ofNat value.natAbs
      double (if value < 0 then magnitude.neg else magnitude)

mutual

def ofJson : Json → AmqpValue
  | .null => void
  | .boolean value => boolean value
  | .number value => ofNumber value
  | .text value => longText (Utf8.encode value)
  | .list items => list (ofItems items)
  | .object members => table (ofMembers members)
termination_by structural value => value

def ofItems : List Json → List AmqpValue
  | [] => []
  | item :: rest => ofJson item :: ofItems rest
termination_by structural items => items

def ofMembers : List (String × Json) → List (String × AmqpValue)
  | [] => []
  | (name, value) :: rest => (name, ofJson value) :: ofMembers rest
termination_by structural members => members

end

end AmqpValue

end ExchangeTap
