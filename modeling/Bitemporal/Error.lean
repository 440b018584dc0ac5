import Bitemporal.Axis
import Bitemporal.Issue
import Bitemporal.Value
import Bitemporal.Yaml.Fault

/-!
# Errors

Each way in which an operation can fail, with what its message needs. The wording of a message
stands in one function for each family.
-/

namespace Bitemporal

inductive InputKind where
  /-- The value is not an instant or not an integer. -/
  | argument
  /-- The interval of a record is incomplete or runs backwards. -/
  | interval
  /-- An instant lies after the one that stands for now. -/
  | range
  deriving DecidableEq

inductive InputError where
  | booleanInstant (b : Bool)
  | nonFiniteInstant (x : Binary64)
  | unsupportedInstant (value : Value)
  | notTimestamp (text : String)
  | patternMismatch (text pattern : String)
  | nonIntegerInstant (value : Value)
  | negativeInstant (millis : Int)
  | oversizedInstant (millis : Int)
  | openInstant (millis : Int)
  | notInteger (field column : String) (value : Value)
  | exceedsNow (field : String) (millis now : Int)
  | missingEnd (axis : Axis)
  | inverted (start stop : Axis) (startMillis stopMillis : Int) (startText stopText : String)

namespace InputError

def kind : InputError → InputKind
  | missingEnd _ | inverted .. => .interval
  | exceedsNow .. => .range
  | _ => .argument

def field : InputError → String
  | booleanInstant _ | nonFiniteInstant _ | unsupportedInstant _ | notTimestamp _
  | patternMismatch .. => "value"
  | nonIntegerInstant _ | negativeInstant _ | oversizedInstant _ | openInstant _ => "millis"
  | notInteger field .. | exceedsNow field .. => field
  | missingEnd axis | inverted axis .. => axis.column

def value : InputError → Value
  | booleanInstant b => .bool b
  | nonFiniteInstant x => .float x
  | unsupportedInstant v | nonIntegerInstant v | notInteger _ _ v => v
  | notTimestamp text | patternMismatch text _ => .text text
  | negativeInstant millis | oversizedInstant millis | openInstant millis => .int millis
  | exceedsNow _ millis _ => .int millis
  | missingEnd _ => .null
  | inverted _ _ start stop .. => .list [.int start, .int stop]

def message : InputError → String
  | booleanInstant b => "Cannot parse boolean " ++ (Value.bool b).shown ++ " as a date"
  | nonFiniteInstant x => "Cannot parse non-finite " ++ x.text ++ " as a date"
  | unsupportedInstant v => "Cannot parse " ++ v.kind ++ " as a date"
  | notTimestamp text => "'" ++ text ++ "' is not an epoch-millis timestamp"
  | patternMismatch text pattern =>
    "'" ++ text ++ "' does not match date pattern '" ++ pattern ++ "'"
  | nonIntegerInstant v => "Bitemporal instant requires an integer, got " ++ v.kind
  | negativeInstant _ => "Cannot build a bitemporal instant with a negative unix time"
  | oversizedInstant millis =>
    "Bitemporal instant " ++ Numeral.ofInt millis ++ " does not fit in 64 bits"
  | openInstant _ => "NOW has no calendar representation"
  | notInteger _ column v => "Column '" ++ column ++ "' value " ++ v.shown ++ " is not an integer"
  | exceedsNow _ millis now =>
    "Bitemporal instant '" ++ Numeral.ofInt millis ++ "' exceeds max value '" ++
      Numeral.ofInt now ++ "'"
  | missingEnd axis => axis.column ++ " column required"
  | inverted start stop _ _ startText stopText =>
    start.column ++ ":'" ++ startText ++ "' is after " ++ stop.column ++ ":'" ++ stopText ++ "'"

end InputError

inductive ConfigurationError where
  | columnRequired (axis : Axis)
  | fieldRequired
  | unreadableNow (value : Value) (cause : InputError)
  | nowOutOfRange (value : Value)
  | alreadyMapped (field : String)
  | invalidOptions (issues : List Issue)

namespace ConfigurationError

def message : ConfigurationError → String
  | columnRequired axis => axis.column ++ " column name is required"
  | fieldRequired => "Mapper field name is required"
  | unreadableNow value cause => "Invalid now_value " ++ value.shown ++ ": " ++ cause.message
  | nowOutOfRange value => "now_value " ++ value.shown ++ " is out of range"
  | alreadyMapped field => "Field '" ++ field ++ "' is already mapped"
  | invalidOptions _ => "Invalid schema options"

end ConfigurationError

inductive MismatchError where
  | unmapped (field : String)
  | unmappedSort (field : String)
  | wrongMapper (field wanted found : String)

namespace MismatchError

def message : MismatchError → String
  | unmapped field => "No mapper found for field '" ++ field ++ "'"
  | unmappedSort field => "No mapper found for sort field '" ++ field ++ "'"
  | wrongMapper field wanted found =>
    "Field '" ++ field ++ "' requires a mapper of type '" ++ wanted ++ "' but found '" ++ found ++
      "'"

end MismatchError

inductive Error where
  | input (cause : InputError)
  | configuration (cause : ConfigurationError)
  | sortRefused (name : String)
  | mismatch (cause : MismatchError)
  | invalid (issues : List Issue)
  | jsonSyntax
  /-- Values are nested too deeply. -/
  | tooDeep
  | conditionNotObject (kind : String)
  | numeralNotReadable
  | directiveRepeated
  | overflow
  | notPredicate (kind : String)
  /-- A part of a predicate is asked for what only predicates can tell. -/
  | foreignPart
  | unknownClause (word : String)
  /-- Something is looked up by a name that has no entry. -/
  | missingEntry (name : String)
  | configNotFound (path : String)
  | configNotMapping (kind : String)
  | configSyntax (path : String)
  | configScalar (cause : Yaml.Fault)
  | configIsDirectory
  | homeUnknown
  | pathTooLong
  /-- A path given in a command line holds a null character. -/
  | pathNotReadable
  /-- A text that has to be made of characters only holds half of a surrogate pair. -/
  | notEncodable
  /-- The value that a message has to show cannot be shown. -/
  | unshown (fault : Value.Fault)
  /-- A printed text closes a mark that is not open. -/
  | markNotOpen

namespace Error

def message? : Error → Option String
  | input cause => some cause.message
  | configuration cause => some cause.message
  | sortRefused name => some ("Bitemporal mapper '" ++ name ++ "' does not support sorting")
  | mismatch cause => some cause.message
  | conditionNotObject kind => some ("Condition JSON must be an object, got " ++ kind)
  | notPredicate kind => some ("Unknown predicate type: " ++ kind)
  | configNotFound path => some ("Config file not found: " ++ path)
  | configNotMapping kind => some ("Config file must contain a dictionary, got " ++ kind)
  | configSyntax path => some ("Invalid YAML in config file " ++ path)
  | invalid _ | jsonSyntax | tooDeep | numeralNotReadable | directiveRepeated | overflow
  | foreignPart | unknownClause _ | missingEntry _ | configScalar _ | configIsDirectory
  | homeUnknown | pathTooLong | pathNotReadable | notEncodable | unshown _ | markNotOpen =>
    none

/-- An error whose message shows a value, if the value can be shown. -/
def showing (value : Value) (e : Error) : Error :=
  match value.fault? Value.depthLimit with
  | none => e
  | some fault => unshown fault

end Error

end Bitemporal
