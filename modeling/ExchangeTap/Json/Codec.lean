import ExchangeTap.Json.Tree
import ExchangeTap.Json.Writer

/-! Reading visits the document in its order and stops at the first fault. Members that a record
does not know are skipped, and a record may also stand as the list of its fields. -/

namespace ExchangeTap.Json

namespace Tree

def mismatch : Tree → Fault
  | .broken defect => defect.strict
  | .number none | .text none => .malformed
  | _ => .mistyped

def closed : Option Defect → Except Fault Unit
  | none => .ok ()
  | some defect => .error defect.strict

mutual

def skip : Tree → Except Fault Unit
  | .broken defect => .error defect.skipping
  | .list items ending => skipItems items ending
  | .object members ending => skipMembers members ending
  | .null | .boolean _ | .number _ | .text _ => .ok ()
termination_by structural tree => tree

def skipItems (items : List Tree) (ending : Option Defect) : Except Fault Unit :=
  match items with
  | [] =>
    match ending with
    | none => .ok ()
    | some defect => .error defect.skipping
  | item :: rest =>
    match item.skip with
    | .error fault => .error fault
    | .ok () => skipItems rest ending
termination_by structural items

def skipMembers (members : List (Option String × Tree)) (ending : Option Defect) :
    Except Fault Unit :=
  match members with
  | [] =>
    match ending with
    | none => .ok ()
    | some defect => .error defect.skipping
  | (_, value) :: rest =>
    match value.skip with
    | .error fault => .error fault
    | .ok () => skipMembers rest ending
termination_by structural members

end

mutual

/-- Any value whatsoever, with room for so many levels of lists and objects. Of members with the same
name the last one counts. -/
def toJson (room : Nat) : Tree → Except Fault Json
  | .null => .ok .null
  | .boolean value => .ok (.boolean value)
  | .number (some value) => .ok (.number value)
  | .text (some value) => .ok (.text value)
  | .number none | .text none => .error .malformed
  | .broken defect => .error defect.strict
  | .list items ending =>
    match room with
    | 0 => .error .malformed
    | room + 1 => (itemsToJson room items ending).map .list
  | .object members ending =>
    match room with
    | 0 => .error .malformed
    | room + 1 => (membersToJson room [] members ending).map .object
termination_by structural tree => tree

def itemsToJson (room : Nat) (items : List Tree) (ending : Option Defect) :
    Except Fault (List Json) :=
  match items with
  | [] => (closed ending).map fun _ => []
  | item :: rest =>
    match item.toJson room with
    | .error fault => .error fault
    | .ok value => (itemsToJson room rest ending).map (value :: ·)
termination_by structural items

def membersToJson (room : Nat) (sorted : List (String × Json))
    (members : List (Option String × Tree)) (ending : Option Defect) :
    Except Fault (List (String × Json)) :=
  match members with
  | [] => (closed ending).map fun _ => sorted
  | (none, _) :: _ => .error .malformed
  | (some name, tree) :: rest =>
    match tree.toJson room with
    | .error fault => .error fault
    | .ok value => membersToJson room (Keyed.insert name value sorted) rest ending
termination_by structural members

end

end Tree

/-- `room` is the number of levels of lists and objects that may still be entered. -/
structure Codec (α : Type) where
  read (room : Nat) (tree : Tree) : Except Fault α
  write (value : α) : Json

namespace Codec

def any : Codec Json where
  read := Tree.toJson
  write value := value

def text : Codec String where
  read _
    | .text (some value) => .ok value
    | tree => .error tree.mismatch
  write value := .text value

def boolean : Codec Bool where
  read _
    | .boolean value => .ok value
    | tree => .error tree.mismatch
  write value := .boolean value

def natural (bound : Nat) : Codec Nat where
  read _
    | .number (some (.integer value)) =>
      if 0 ≤ value ∧ value < bound then .ok value.toNat else .error .mistyped
    | tree => .error tree.mismatch
  write value := .natural value

def spelled (parse : String → Option α) (spell : α → String) : Codec α where
  read room tree :=
    match text.read room tree with
    | .error fault => .error fault
    | .ok value =>
      match parse value with
      | some a => .ok a
      | none => .error .mistyped
  write value := .text (spell value)

def optional (c : Codec α) : Codec (Option α) where
  read room
    | .null => .ok none
    | tree => (c.read room tree).map some
  write
    | none => .null
    | some value => c.write value

def readItems (c : Codec α) (room : Nat) (ending : Option Defect) :
    List Tree → Except Fault (List α)
  | [] => (Tree.closed ending).map fun _ => []
  | item :: rest =>
    match c.read room item with
    | .error fault => .error fault
    | .ok value => (readItems c room ending rest).map (value :: ·)

def list (c : Codec α) : Codec (List α) where
  read
    | 0, .list _ _ => .error .malformed
    | room + 1, .list items ending => c.readItems room ending items
    | _, tree => .error tree.mismatch
  write values := .list (values.map c.write)

def members : Codec (List (String × Json)) where
  read
    | 0, .object _ _ => .error .malformed
    | room + 1, .object entries ending => Tree.membersToJson room [] entries ending
    | _, tree => .error tree.mismatch
  write entries := .object entries

def convert (c : Codec α) (make : α → β) (parts : β → α) : Codec β where
  read room tree := (c.read room tree).map make
  write value := c.write (parts value)

end Codec

/-- Whether a field must be there, and what stands for it otherwise. A field that is `omitted` is
not written either while it has its default. -/
inductive Presence (α : Type) where
  | required
  | defaulted (value : α)
  | omitted (value : α) (isDefault : α → Bool)

def Presence.default? : Presence α → Option α
  | .required => none
  | .defaulted value | .omitted value _ => some value

/-- The fields of a record, in order: the first type is that of a whole record, the second that of
what has been read of one. -/
inductive Fields : Type → Type → Type 1 where
  | done : Fields Unit Unit
  | field {α β σ : Type} (name : String) (codec : Codec α) (presence : Presence α)
      (rest : Fields β σ) : Fields (α × β) (Option α × σ)

namespace Fields

def empty : Fields α σ → σ
  | .done => ()
  | .field _ _ _ rest => (none, rest.empty)

/-- Reads the field of that name, unless it was there before; none if no field has that name. -/
def put (name : String) (room : Nat) (tree : Tree) :
    Fields α σ → σ → Option (Except Fault σ)
  | .done, _ => none
  | .field own codec _ rest, (slot, more) =>
    if name = own then
      match slot with
      | some _ => some (.error .mistyped)
      | none => some ((codec.read room tree).map fun value => (some value, more))
    else (rest.put name room tree more).map fun result => result.map fun filled => (slot, filled)

def readMembers (fields : Fields α σ) (room : Nat) (ending : Option Defect) (slots : σ) :
    List (Option String × Tree) → Except Fault σ
  | [] => (Tree.closed ending).map fun _ => slots
  | (none, _) :: _ => .error .malformed
  | (some name, tree) :: rest =>
    match fields.put name room tree slots with
    | some (.ok filled) => readMembers fields room ending filled rest
    | some (.error fault) => .error fault
    | none =>
      match tree.skip with
      | .error fault => .error fault
      | .ok () => readMembers fields room ending slots rest

def complete : Fields α σ → σ → Except Fault α
  | .done, _ => .ok ()
  | .field _ _ presence rest, (slot, more) =>
    match slot.or presence.default? with
    | none => .error .mistyped
    | some value => (rest.complete more).map (value, ·)

def readPositions (room : Nat) (ending : Option Defect) :
    Fields α σ → List Tree → Except Fault α
  | .done, [] => Tree.closed ending
  | .done, _ :: _ => .error .malformed
  | .field _ codec _ rest, item :: items =>
    match codec.read room item with
    | .error fault => .error fault
    | .ok value => (rest.readPositions room ending items).map (value, ·)
  | .field _ _ presence rest, [] =>
    match ending with
    | some defect => .error defect.strict
    | none =>
      match presence.default? with
      | none => .error .mistyped
      | some value => (rest.readPositions room none []).map (value, ·)

def write : Fields α σ → α → List (String × Json)
  | .done, _ => []
  | .field name codec presence rest, (value, more) =>
    match presence with
    | .omitted _ isDefault =>
      if isDefault value then rest.write more else (name, codec.write value) :: rest.write more
    | _ => (name, codec.write value) :: rest.write more

def codec (fields : Fields α σ) : Codec α where
  read
    | 0, .object _ _ | 0, .list _ _ => .error .malformed
    | room + 1, .object members ending =>
      match fields.readMembers room ending fields.empty members with
      | .error fault => .error fault
      | .ok slots => fields.complete slots
    | room + 1, .list items ending => fields.readPositions room ending items
    | _, tree => .error tree.mismatch
  write value := .object (fields.write value)

end Fields

def depthLimit : Nat := 127

def Codec.decodeChars (c : Codec α) (room : Nat) (text : List Char) : Except Fault α :=
  let (tree, followed) := Tree.ofText text
  match c.read room tree with
  | .error fault => .error fault
  | .ok value => if followed then .error .malformed else .ok value

def Codec.decode (c : Codec α) (text : String) : Except Fault α :=
  c.decodeChars depthLimit text.toList

/-- What bytes that are no text are read as. Like half of a surrogate pair, they may stand in a text that is
skipped, but not in one that is read, and nowhere else. No escape goes on with the mark in front. -/
def stray : List Char :=
  "?\\ud800?".toList

def Codec.decodeBytes (c : Codec α) (bytes : List UInt8) : Except Fault α :=
  c.decodeChars depthLimit <| (Utf8.segments bytes).flatMap fun
    | .char value => [value]
    | .invalid _ | .truncated _ => stray

def Codec.encode (c : Codec α) (value : α) : String :=
  (c.write value).compact

def Codec.encodePretty (c : Codec α) (value : α) : String :=
  (c.write value).pretty

end ExchangeTap.Json
