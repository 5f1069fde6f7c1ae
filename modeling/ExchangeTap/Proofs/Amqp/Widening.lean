import ExchangeTap.Proofs.Amqp.Conversion

/-! Headers from the wire to JSON and back. Integers and time stamps ought to be sent on as
integers; a time stamp too large for 64 bits with a sign goes out as a double instead. Without one,
every value is sent on as a wider one that says the same. -/

namespace ExchangeTap.AmqpValue

open Json (FitsSigned)

mutual

/-- The value itself and everything inside of it. -/
@[simp] def nodes : AmqpValue → List AmqpValue
  | list items => list items :: itemNodes items
  | table entries => table entries :: entryNodes entries
  | boolean value => [boolean value]
  | int8 value => [int8 value]
  | uint8 value => [uint8 value]
  | int16 value => [int16 value]
  | uint16 value => [uint16 value]
  | int32 value => [int32 value]
  | uint32 value => [uint32 value]
  | int64 value => [int64 value]
  | float bits => [float bits]
  | double value => [double value]
  | decimal scale value => [decimal scale value]
  | shortText value => [shortText value]
  | longText content => [longText content]
  | timestamp value => [timestamp value]
  | bytes content => [bytes content]
  | void => [void]
termination_by structural value => value

@[simp] def itemNodes : List AmqpValue → List AmqpValue
  | [] => []
  | item :: rest => item.nodes ++ itemNodes rest
termination_by structural items => items

@[simp] def entryNodes : List (String × AmqpValue) → List AmqpValue
  | [] => []
  | (_, value) :: rest => value.nodes ++ entryNodes rest
termination_by structural entries => entries

end

/-- An integer has no more bits than its type gives it. -/
def InRange : AmqpValue → Prop
  | int8 n => -(2 ^ 7) ≤ n ∧ n < 2 ^ 7
  | uint8 n => n < 2 ^ 8
  | int16 n => -(2 ^ 15) ≤ n ∧ n < 2 ^ 15
  | uint16 n => n < 2 ^ 16
  | int32 n => -(2 ^ 31) ≤ n ∧ n < 2 ^ 31
  | uint32 n => n < 2 ^ 32
  | int64 n => -(2 ^ 63) ≤ n ∧ n < 2 ^ 63
  | timestamp n => n < 2 ^ 64
  | _ => True

def finiteOrVoid (x : Binary64) : AmqpValue :=
  if x.isFinite then double x else void

mutual

/-- What a value is sent on as. A time stamp that does not fit ought not to become a double. -/
def widened : AmqpValue → AmqpValue
  | int8 n | int16 n | int32 n | int64 n => int64 n
  | uint8 n | uint16 n | uint32 n => int64 n
  | timestamp n => if n < 2 ^ 63 then int64 n else double (.ofNat n)
  | shortText text => longText (Utf8.encode text)
  | longText content =>
    match Utf8.decodeChars content with
    | .ok _ => longText content
    | .error _ => longText (Utf8.encode (Utf8.lossy content))
  | bytes content => longText (Utf8.encode (describeBytes content))
  | decimal scale value => longText (Utf8.encode (describeDecimal scale value))
  | boolean value => boolean value
  | void => void
  | float bits => finiteOrVoid (.ofSingleBits bits)
  | double value => finiteOrVoid value
  | list items => list (widenedItems items)
  | table entries => table (widenedEntries entries)
termination_by structural value => value

def widenedItems : List AmqpValue → List AmqpValue
  | [] => []
  | item :: rest => item.widened :: widenedItems rest
termination_by structural items => items

def widenedEntries : List (String × AmqpValue) → List (String × AmqpValue)
  | [] => []
  | (name, value) :: rest => (name, value.widened) :: widenedEntries rest
termination_by structural entries => entries

end

private theorem widenedItems_eq_map (items : List AmqpValue) : widenedItems items = items.map widened := by
  induction items with
  | nil => rfl
  | cons item rest ih => rw [widenedItems, ih, List.map_cons]

private theorem widenedEntries_eq_map (entries : List (String × AmqpValue)) :
    widenedEntries entries = entries.map fun entry => (entry.1, entry.2.widened) := by
  induction entries with
  | nil => rfl
  | cons entry rest ih => rw [widenedEntries, ih, List.map_cons]

private theorem ofJson_integer {n : Int} (fits : FitsSigned n) : ofJson (.integer n) = int64 n :=
  ofNumber_of_fits fits

private theorem ofJson_natural {n : Nat} (bound : n < 2 ^ 63) : ofJson (.natural n) = int64 n :=
  ofJson_integer (n := n) ⟨by omega, by omega⟩

private theorem ofJson_jsonOfDouble (x : Binary64) : ofJson (jsonOfDouble x) = finiteOrVoid x := by
  unfold jsonOfDouble finiteOrVoid
  split <;> rfl

private theorem widened_timestamp (n : Nat) : ofJson (.natural n) = (timestamp n).widened := by
  by_cases bound : n < 2 ^ 63
  · rw [ofJson_natural bound, widened, if_pos bound]
  · have far := ofNumber_of_large (n := n) (by omega)
    rw [Int.natAbs_natCast] at far
    rw [widened, if_neg bound]
    exact far

private theorem widened_longText (content : List UInt8) :
    ofJson (.text (Utf8.lossy content)) = (longText content).widened := by
  rw [ofJson, widened]
  cases read : Utf8.decodeChars content with
  | error defect => rfl
  | ok text =>
      rw [← Utf8.decodeChars_eq_ok_iff.mp read, Utf8.lossy_encodeChars, Utf8.encode,
        String.toList_ofList]

private theorem mem_nodes_of_item {items : List AmqpValue} {item inner : AmqpValue} (here : item ∈ items)
    (within : inner ∈ item.nodes) : inner ∈ (list items).nodes := by
  have inItems : inner ∈ itemNodes items := by
    induction items with
    | nil => cases here
    | cons first rest ih =>
        rw [itemNodes, List.mem_append]
        rcases List.mem_cons.mp here with rfl | later
        · exact .inl within
        · exact .inr (ih later)
  simp [inItems]

private theorem mem_nodes_of_entry {entries : List (String × AmqpValue)} {entry : String × AmqpValue}
    {inner : AmqpValue} (here : entry ∈ entries) (within : inner ∈ entry.2.nodes) :
    inner ∈ (table entries).nodes := by
  have inEntries : inner ∈ entryNodes entries := by
    induction entries with
    | nil => cases here
    | cons first rest ih =>
        rw [entryNodes, List.mem_append]
        rcases List.mem_cons.mp here with rfl | later
        · exact .inl within
        · exact .inr (ih later)
  simp [inEntries]

/-- Integers and time stamps ought to go out as integers of 64 bits with a sign, and they do wherever
all of the time stamps fit; a time stamp that does not goes out as a double. -/
theorem sent_on_widened : ∀ (value : AmqpValue), (∀ inner ∈ value.nodes, inner.InRange) →
    ofJson value.toJson = value.widened
  | int8 n, held => by
      obtain ⟨least, most⟩ := held (int8 n) (by simp)
      exact ofJson_integer ⟨by omega, by omega⟩
  | int16 n, held => by
      obtain ⟨least, most⟩ := held (int16 n) (by simp)
      exact ofJson_integer ⟨by omega, by omega⟩
  | int32 n, held => by
      obtain ⟨least, most⟩ := held (int32 n) (by simp)
      exact ofJson_integer ⟨by omega, by omega⟩
  | int64 n, held => ofJson_integer (held (int64 n) (by simp))
  | uint8 n, held => by
      have bound : n < 2 ^ 8 := held (uint8 n) (by simp)
      exact ofJson_natural (by omega)
  | uint16 n, held => by
      have bound : n < 2 ^ 16 := held (uint16 n) (by simp)
      exact ofJson_natural (by omega)
  | uint32 n, held => by
      have bound : n < 2 ^ 32 := held (uint32 n) (by simp)
      exact ofJson_natural (by omega)
  | timestamp n, _ => widened_timestamp n
  | shortText _, _ => rfl
  | longText content, _ => widened_longText content
  | bytes _, _ => rfl
  | decimal _ _, _ => rfl
  | boolean _, _ => rfl
  | void, _ => rfl
  | float bits, _ => ofJson_jsonOfDouble (.ofSingleBits bits)
  | double x, _ => ofJson_jsonOfDouble x
  | list items, held => by
      rw [toJson, ofJson, widened, itemsToJson_eq_map, ofItems_eq_map, widenedItems_eq_map,
        List.map_map]
      exact congrArg list (List.map_congr_left fun item here =>
        sent_on_widened item fun inner within => held inner (mem_nodes_of_item here within))
  | table entries, held => by
      rw [toJson, ofJson, widened, entriesToJson_eq_map, ofMembers_eq_map, widenedEntries_eq_map,
        List.map_map]
      exact congrArg table (List.map_congr_left fun entry here =>
        congrArg (entry.1, ·) (sent_on_widened entry.2 fun inner within =>
          held inner (mem_nodes_of_entry here within)))
termination_by value => sizeOf value
decreasing_by
  · have := List.sizeOf_lt_of_mem here
    simp
    omega
  · have := List.sizeOf_lt_of_mem here
    cases entry
    simp at *
    omega

theorem sent_on_widened_in_table :
    let value := table [("bytes", bytes [1, 2]), ("list", list [int8 (-128), uint32 4294967295, void]),
      ("text", shortText "é"), ("time", timestamp 9223372036854775807)]
    (∀ inner ∈ value.nodes, inner.InRange) ∧
      ofJson value.toJson = table [("bytes", longText (Utf8.encode "ByteArray(ByteArray([1, 2]))")),
        ("list", list [int64 (-128), int64 4294967295, void]), ("text", longText (Utf8.encode "é")),
        ("time", int64 9223372036854775807)] := by
  intro value
  have held : ∀ inner ∈ value.nodes, inner.InRange := by
    simp [value, InRange]
  have described : describeBytes [1, 2] = "ByteArray(ByteArray([1, 2]))" := by decide +kernel
  refine ⟨held, (sent_on_widened value held).trans ?_⟩
  simp [value, widened, widenedEntries, widenedItems, described]

/-- The least time stamp that does not go out as the integer that it ought to be. -/
theorem timestamp_sent_on_as_double :
    ofJson (timestamp 9223372036854775808).toJson = double ⟨0x43E0000000000000⟩ ∧
      ofJson (timestamp 9223372036854775808).toJson ≠ int64 9223372036854775808 := by
  have sent : ofJson (timestamp 9223372036854775808).toJson = double ⟨0x43E0000000000000⟩ := by
    have nearest : Binary64.ofNat 9223372036854775808 = ⟨0x43E0000000000000⟩ := by decide +kernel
    rw [toJson, widened_timestamp, widened, if_neg (by decide), nearest]
  refine ⟨sent, ?_⟩
  rw [sent]
  nofun

end ExchangeTap.AmqpValue
