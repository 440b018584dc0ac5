import Bitemporal.Text.Halves
import Bitemporal.Value

/-!
# Writing values as JSON

Texts are written in ASCII: every other character is a numbered escape of four hexadecimal digits,
or a pair of them beyond the first plane. Members keep their order.
-/

namespace Bitemporal.Json

structure Separators where
  item : String
  name : String

def compact : Separators := ⟨",", ":"⟩

def spaced : Separators := ⟨", ", ": "⟩

def unitEscape (unit : Nat) : List Char := '\\' :: 'u' :: Text.hexDigits 4 unit

/-- A code point as one numbered escape or, beyond the first plane, as two. -/
def numberedEscape (code : Nat) : List Char :=
  if code < 0x10000 then unitEscape code
  else
    unitEscape (0xd800 + (code - 0x10000) / 0x400) ++
      unitEscape (0xdc00 + (code - 0x10000) % 0x400)

def escaped (p : Text.Point) : List Char :=
  match p with
  | .char '"' => ['\\', '"']
  | .char '\\' => ['\\', '\\']
  | .char '\n' => ['\\', 'n']
  | .char '\r' => ['\\', 'r']
  | .char '\t' => ['\\', 't']
  | .char '\x0c' => ['\\', 'f']
  | .char '\x08' => ['\\', 'b']
  | .char c => if ' ' ≤ c ∧ c ≤ '~' then [c] else numberedEscape c.toNat
  | .half _ => numberedEscape p.code

def textChars (s : String) : List Char := '"' :: (Text.points s.toList).flatMap escaped ++ ['"']

def writeText (s : String) : String := String.ofList (textChars s)

/-- A number; those that have no digits are written as words. -/
def writeFloat : Binary64 → String
  | .nan => "NaN"
  | .infinite false => "Infinity"
  | .infinite true => "-Infinity"
  | x => x.text

mutual

/-- A value as JSON. Values that JSON does not have are written as the text they are shown as. -/
def write (sep : Separators) : Value → String
  | .null => "null"
  | .bool true => "true"
  | .bool false => "false"
  | .int n => Numeral.ofInt n
  | .float x => writeFloat x
  | .text s => writeText s
  | .list items => "[" ++ sep.item.intercalate (writeItems sep items) ++ "]"
  | .object members => "\x7b" ++ sep.item.intercalate (writeMembers sep members) ++ "\x7d"
  | v => writeText v.shown

def writeItems (sep : Separators) : List Value → List String
  | [] => []
  | v :: rest => write sep v :: writeItems sep rest

def writeMembers (sep : Separators) : List (String × Value) → List String
  | [] => []
  | (name, v) :: rest => (writeText name ++ sep.name ++ write sep v) :: writeMembers sep rest

end

end Bitemporal.Json
