import Bitemporal.Error

/-!
# Consoles

What a command prints, and the console that it prints on. Texts may hold marks in square brackets,
and a console that reads them need not accept every text.
-/

namespace Bitemporal.CommandLine

inductive Printed where
  | line (text : String)
  /-- A table of two columns. -/
  | table (title : String) (heads : String × String) (rows : List (String × String))
  | json (text : String)
  /-- An error that the command reports. -/
  | failure (e : Error)

namespace Printed

def failureLine (message : String) : String := "[red]Error:[/red] " ++ message

/-- The texts in which marks are read, as far as errors have messages of their own. -/
def marked : Printed → List String
  | line text => [text]
  | table title heads rows => title :: (heads :: rows).flatMap fun row => [row.1, row.2]
  | json _ => []
  | failure e => (e.message?.map failureLine).toList

end Printed

structure Console where
  /-- The error with which the console refuses to print something, if it refuses. -/
  refusal? : Printed → Option Error

def Console.plain : Console := ⟨fun _ => none⟩

end Bitemporal.CommandLine
