import Bitemporal.Number.Shortest
import Bitemporal.Text.Quoted

/-!
# Issues with structured input

Conditions, schema options and settings arrive as untyped members. Every member that breaks a rule
gives one issue: where it is and what is wrong with it. Issues are collected, not stopped at.
-/

namespace Bitemporal

inductive Fault where
  | missing
  | unexpected
  | notText
  | notUnicode
  | notInt
  | unreadableInt
  | fractionalInt
  | oversizedInt
  | notFinite
  | notFloat
  | unreadableFloat
  | notBool
  | unreadableBool
  | notObject
  | notStructure
  | wrongTag (expected : String)
  | unknownTag (tag : String) (expected : List String)
  | noTag
  | blankFieldName
  | unknownEnvironment
  | unknownLogLevel
  | boostNotPositive (boost : Binary64)
  deriving DecidableEq

namespace Fault

def code : Fault → String
  | missing => "missing"
  | unexpected => "extra_forbidden"
  | notText => "string_type"
  | notUnicode => "string_unicode"
  | notInt => "int_type"
  | unreadableInt => "int_parsing"
  | fractionalInt => "int_from_float"
  | oversizedInt => "int_parsing_size"
  | notFinite => "finite_number"
  | notFloat => "float_type"
  | unreadableFloat => "float_parsing"
  | notBool => "bool_type"
  | unreadableBool => "bool_parsing"
  | notObject => "dict_type"
  | notStructure => "model_attributes_type"
  | wrongTag _ => "literal_error"
  | unknownTag .. => "union_tag_invalid"
  | noTag => "union_tag_not_found"
  | blankFieldName | unknownEnvironment | unknownLogLevel | boostNotPositive _ => "value_error"

/-- The log levels in alphabetical order, as the message about them lists them. -/
def logLevels : List String := ["CRITICAL", "DEBUG", "ERROR", "INFO", "WARNING"]

def inQuotes (word : String) : String := "'" ++ word ++ "'"

def message : Fault → String
  | missing => "Field required"
  | unexpected => "Extra inputs are not permitted"
  | notText => "Input should be a valid string"
  | notUnicode =>
    "Input should be a valid string, unable to parse raw data as a unicode string"
  | notInt => "Input should be a valid integer"
  | unreadableInt => "Input should be a valid integer, unable to parse string as an integer"
  | fractionalInt => "Input should be a valid integer, got a number with a fractional part"
  | oversizedInt => "Unable to parse input string as an integer, exceeded maximum size"
  | notFinite => "Input should be a finite number"
  | notFloat => "Input should be a valid number"
  | unreadableFloat => "Input should be a valid number, unable to parse string as a number"
  | notBool => "Input should be a valid boolean"
  | unreadableBool => "Input should be a valid boolean, unable to interpret input"
  | notObject => "Input should be a valid dictionary"
  | notStructure => "Input should be a valid dictionary or object to extract fields from"
  | wrongTag expected => "Input should be " ++ inQuotes expected
  | unknownTag tag expected =>
    "Input tag '" ++ tag ++ "' found using 'type' does not match any of the expected tags: " ++
      ", ".intercalate (expected.map inQuotes)
  | noTag => "Unable to extract tag using discriminator 'type'"
  | blankFieldName => "Value error, field name is required"
  | unknownEnvironment => "Value error, environment must be one of"
  | unknownLogLevel =>
    "Value error, log_level must be one of: [" ++ ", ".intercalate (logLevels.map inQuotes) ++ "]"
  | boostNotPositive boost =>
    "Value error, default_boost must be positive (got " ++ boost.text ++ ")"

end Fault

structure Issue where
  path : List String
  fault : Fault
  deriving DecidableEq

namespace Issue

def under (name : String) (issue : Issue) : Issue := { issue with path := name :: issue.path }

end Issue

end Bitemporal
