import ExchangeTap.Message.Plain
import ExchangeTap.Output.Directory

namespace ExchangeTap

inductive OutputFormat where
  | plain
  | jsonLines
  deriving DecidableEq, Repr

def OutputFormat.render (message : Received) : OutputFormat → String
  | plain => message.plainText
  | jsonLines => SavedMessage.codec.encode (.ofReceived message) ++ "\n"

structure Printer where
  format : OutputFormat
  printed : List String
  directory : Option Directory
  deriving DecidableEq, Repr

namespace Printer

/-- A printer that has not printed anything yet. The directory is there from then on, unless something
else stands in its way: then it has no files. -/
def create (format : OutputFormat) (directory : Option Directory) : Except String Printer :=
  match directory with
  | some ⟨path, none⟩ => .error ("Failed to create directory: " ++ path)
  | directory => .ok ⟨format, [], directory⟩

/-- A message is printed before it is saved, so a failure to save does not take it back. -/
def print (p : Printer) (message : Received) : Except String Unit × Printer :=
  let p := { p with printed := p.printed ++ [p.format.render message] }
  match p.directory with
  | none => (.ok (), p)
  | some directory =>
    match directory.save message with
    | .ok directory => (.ok (), { p with directory := some directory })
    | .error e => (.error e, p)

def text (p : Printer) : String :=
  String.join p.printed

end Printer

end ExchangeTap
