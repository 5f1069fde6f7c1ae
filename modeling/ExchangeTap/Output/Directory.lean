import ExchangeTap.Message.Saved

/-! A file is named for the time of receipt in nanoseconds, or for the next number that no file is
named for, so that none is ever overwritten. -/

namespace ExchangeTap

structure Directory where
  path : String
  /-- The files by their names, in order; none when the directory does not exist. -/
  files : Option (List (String × String))
  deriving DecidableEq, Repr

namespace Directory

def fileName (number : Int) : String :=
  "amqptap-" ++ Digits.integerText number ++ ".json"

def isUsed (files : List (String × String)) (number : Int) : Bool :=
  files.any (·.1 = fileName number)

/-- The least number, from a given one on, that no file is named for. Among as many numbers as there are
files, and one more, one is free. -/
def freeNumber (files : List (String × String)) (start : Int) : Int :=
  go files.length start
where
  go : Nat → Int → Int
    | 0, number => number
    | more + 1, number => if isUsed files number then go more (number + 1) else number

def firstNumber (message : Received) : Int :=
  message.receivedAt.unixNanos?.getD 0

/-- Adds a file for the message; in a directory that does not exist, no file can be created. -/
def save (d : Directory) (message : Received) : Except String Directory :=
  match d.files with
  | none => .error ("Failed to create " ++ d.path ++ "/" ++ fileName (firstNumber message))
  | some files =>
    let name := fileName (freeNumber files (firstNumber message))
    let content := SavedMessage.codec.encodePretty (.ofReceived message)
    .ok { d with files := some (Keyed.insert name content files) }

end Directory

end ExchangeTap
