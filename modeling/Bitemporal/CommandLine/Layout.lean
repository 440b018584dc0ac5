import Bitemporal.CommandLine.Console

/-!
# Laying out what is printed

Plain text for a terminal without colours: marks are left as they stand, and the columns of a table
are as wide as their widest cell.
-/

namespace Bitemporal.CommandLine

/-- Words for the errors that have no message of their own. -/
def explanation : Error → String
  | .invalid issues =>
    "; ".intercalate (issues.map fun i => ".".intercalate i.path ++ ": " ++ i.fault.message)
  | .jsonSyntax => "Invalid JSON"
  | .tooDeep => "Values are nested too deeply"
  | .numeralNotReadable => "Invalid numeral"
  | .directiveRepeated => "Date pattern uses a directive twice"
  | .overflow => "Number out of range"
  | .foreignPart => "Part of the predicate is no predicate"
  | .unknownClause word => "Unknown clause: " ++ word
  | .missingEntry name => "No entry for " ++ name
  | .configScalar _ => "Unreadable value in config file"
  | .configIsDirectory => "Config file is a directory"
  | .homeUnknown => "Unknown home directory"
  | .pathTooLong => "Path too long"
  | .pathNotReadable => "Path holds a null character"
  | .notEncodable => "Text holds half of a surrogate pair"
  | .unshown .oversizedNumeral => "Numeral is too long to be shown"
  | .unshown .tooDeep => "Values are nested too deeply to be shown"
  | .markNotOpen => "Text closes a mark that is not open"
  | e => e.message?.getD ""

def errorLine (e : Error) : String := Printed.failureLine (explanation e)

def padCell (width : Nat) (cell : String) : String := cell.pushn ' ' (width - cell.length)

def rowLines (rows : List (String × String)) : List String :=
  let width (cells : List String) : Nat := (cells.map String.length).foldl max 0
  let left := width (rows.map Prod.fst)
  let right := width (rows.map Prod.snd)
  rows.map fun row => padCell left row.1 ++ "  " ++ padCell right row.2

def Printed.lines : Printed → List String
  | .line text => [text]
  | .table title heads rows => title :: rowLines (heads :: rows)
  | .json text => [text]
  | .failure e => [errorLine e]

end Bitemporal.CommandLine
