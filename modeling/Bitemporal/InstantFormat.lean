import Bitemporal.DatePattern.Reading
import Bitemporal.DatePattern.Writing
import Bitemporal.Error

/-!
# Reading and writing instants

An instant is a number of milliseconds since the epoch. Numbers, dates and date-times denote the
same instant under every format; a text is read by the format's date pattern, or as a numeral when
the pattern is the word for timestamps. Instants outside the calendar are written as numerals, and
a pattern writes the others only if it is made of characters.
-/

namespace Bitemporal

structure InstantFormat where
  pattern : String
  deriving DecidableEq

namespace InstantFormat

def defaultPattern : String := "%Y/%m/%d %H:%M:%S.%f %z"

def timestampPattern : String := "timestamp"

/-- The format of a pattern; without one, or with the empty one, the default. -/
def ofPattern (pattern : Option String) : InstantFormat :=
  match pattern with
  | some p => if p = "" then ⟨defaultPattern⟩ else ⟨p⟩
  | none => ⟨defaultPattern⟩

def isTimestamp (f : InstantFormat) : Bool := f.pattern = timestampPattern

/-- The instant that a text denotes. Blanks around it do not count. -/
def readText (f : InstantFormat) (text : String) : Except Error Int :=
  if f.isTimestamp then
    match Numeral.readInt? (Text.trimmed text) with
    | some millis => .ok millis
    | none => .error (.input (.notTimestamp text))
  else
    match DatePattern.read f.pattern.toList (Text.trimmed text) with
    | .ok t => .ok t.millis
    | .error .mismatch => .error (.input (.patternMismatch text f.pattern))
    | .error .repeated => .error .directiveRepeated

/-- The instant that a value denotes, if there is a value. Fractions of a millisecond are dropped.
An integer beyond the range of doubles is refused. -/
def read (f : InstantFormat) : Value → Except Error (Option Int)
  | .null => .ok none
  | .bool b => .error (.input (.booleanInstant b))
  | .int n => if (Binary64.ofInt? n).isSome then .ok (some n) else .error .overflow
  | .float x =>
    match x.truncate? with
    | some n => .ok (some n)
    | none => .error (.input (.nonFiniteInstant x))
  | .dateTime t => .ok (some t.millis)
  | .date d => .ok (some (DateTime.millis ⟨d, TimeOfDay.midnight, some Offset.utc⟩))
  | .text s => (f.readText s).map some
  | v => .error (.input (.unsupportedInstant v))

def write (f : InstantFormat) (millis : Int) : Except Error String :=
  if f.isTimestamp then .ok (Numeral.ofInt millis)
  else
    match DateTime.ofMillis? millis with
    | some t =>
      if Text.hasHalf f.pattern then .error .notEncodable
      else .ok (String.ofList (DatePattern.write t f.pattern.toList))
    | none => .ok (Numeral.ofInt millis)

def shown (f : InstantFormat) : String := "DateParser(pattern=" ++ Text.quoted f.pattern ++ ")"

end InstantFormat

end Bitemporal
