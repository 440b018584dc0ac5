/-!
# Why a YAML document cannot be read
-/

namespace Bitemporal.Yaml

inductive Fault where
  /-- The text is not YAML, or its nodes do not fit together. -/
  | malformed
  /-- A scalar looks like a number or a moment but denotes none, or an escape or a version number
  denotes nothing. -/
  | unreadable
  /-- A number is too large. -/
  | tooLarge
  /-- Collections are nested too deeply, or without an end. -/
  | tooDeep
  /-- A scalar that is tagged as a number is empty. -/
  | emptyNumber
  /-- A scalar that is tagged as a truth value is none of the words for one. -/
  | unknownWord
  /-- A scalar that is tagged as a moment does not look like one. -/
  | notMoment
  /-- A mapping is tagged as a moment. -/
  | mappedMoment
  deriving DecidableEq

/-- What is missing makes a text malformed. -/
def orMalformed {α : Type} : Option α → Except Fault α
  | some x => .ok x
  | none => .error .malformed

end Bitemporal.Yaml
