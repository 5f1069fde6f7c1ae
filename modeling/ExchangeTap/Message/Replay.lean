import ExchangeTap.Message.Saved
import ExchangeTap.Text.Utf8

namespace ExchangeTap.Replay

/-- Whether lines are read or the whole file, and what replaces the fields of the messages. -/
structure Options where
  jsonLines : Bool
  exchange : Option String
  routingKey : Option String
  contentType : Option String
  deriving DecidableEq, Repr

inductive Failure where
  /-- A line is no text; the defect counts from the start of the line. -/
  | notText (defect : Utf8.Defect)
  /-- The first line that holds no message, counted from one in 32 bits. -/
  | invalidLine (number : Int32)
  deriving DecidableEq, Repr

def Failure.message : Failure → String
  | notText defect => defect.message
  | invalidLine number => s!"Invalid message on line {number}"

@[simp] theorem Failure.message_invalidLine (number : Int32) :
    (invalidLine number).message = s!"Invalid message on line {number}" := rfl

/-- A line ends at a line feed, and a carriage return in front of it belongs to the end. Nothing
follows a final line feed. -/
def lines (content : List UInt8) : List (List UInt8) :=
  go [] content
where
  go (line : List UInt8) : List UInt8 → List (List UInt8)
    | [] => if line.isEmpty then [] else [line.reverse]
    | byte :: rest =>
      if byte = 10 then
        (match line with
          | [] => []
          | last :: shorter => if last = 13 then shorter.reverse else line.reverse) :: go [] rest
      else go (byte :: line) rest

def withContentType (contentType : Option String) (message : Outbound) : Outbound :=
  match contentType with
  | none => message
  | some value => { message with properties.contentType := some value }

def readLine (options : Options) (line : List Char) : Option Outbound :=
  match SavedMessage.codec.decodeChars Json.depthLimit line with
  | .error _ => none
  | .ok saved =>
    (saved.toOutbound options.exchange options.routingKey).map (withContentType options.contentType)

/-- One message per line that is not blank, the lines counted from `number`. The count goes on below zero
behind the greatest number. -/
def readLines (options : Options) (number : Int32) :
    List (List UInt8) → Except Failure (List Outbound)
  | [] => .ok []
  | bytes :: rest =>
    match Utf8.decodeChars bytes with
    | .error defect => .error (.notText defect)
    | .ok line =>
      if line.all isBlank then readLines options (number + 1) rest
      else
        match readLine options line with
        | none => .error (.invalidLine number)
        | some message => (readLines options (number + 1) rest).map (message :: ·)

def whole (options : Options) (content : List UInt8) : Outbound :=
  withContentType options.contentType
    ⟨options.exchange.getD "", options.routingKey.getD "", .empty, content⟩

def read (options : Options) (content : List UInt8) : Except Failure (List Outbound) :=
  if options.jsonLines then readLines options 1 (lines content)
  else .ok [whole options content]

end ExchangeTap.Replay
