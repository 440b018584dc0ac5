import Bitemporal.OrderedMap
import Bitemporal.Text.Halves
import Bitemporal.Value

/-!
# Reading JSON

Besides standard JSON the reader knows the words for infinity and for the undefined number. A
numeral without fraction and exponent is an integer of any size up to the limit for numerals.
When a name is repeated its last value counts, at the place of the first. A byte order mark, a raw
control character inside a text and anything after the value are errors, and so are lists and
objects that are nested too deeply.
-/

namespace Bitemporal.Json

inductive ReadFailure where
  | malformed
  /-- An integer has more digits than a numeral may have. -/
  | oversizedNumeral
  /-- Lists and objects are nested too deeply. -/
  | tooDeep
  deriving DecidableEq

def depthLimit : Nat := 985

def isSpace (c : Char) : Bool := c = ' ' || c = '\t' || c = '\n' || c = '\r'

def skipSpaces (cs : List Char) : List Char := cs.dropWhile isSpace

def unitOf? (a b c d : Char) : Option Nat := Text.hexNumber? [a, b, c, d]

def isHighSurrogate (unit : Nat) : Bool := 0xd800 ≤ unit && unit < 0xdc00

def isLowSurrogate (unit : Nat) : Bool := 0xdc00 ≤ unit && unit < 0xe000

/-- What a unit that is no part of a pair is kept as. -/
def charsOfUnit (unit : Nat) : List Char := (Text.Point.ofCode unit).spell

def charOfPair (high low : Nat) : Char :=
  Char.ofNat (0x10000 + (high - 0xd800) * 0x400 + (low - 0xdc00))

def shortEscape? : Char → Option Char
  | '"' => some '"'
  | '\\' => some '\\'
  | '/' => some '/'
  | 'b' => some '\x08'
  | 'f' => some '\x0c'
  | 'n' => some '\n'
  | 'r' => some '\r'
  | 't' => some '\t'
  | _ => none

def readChars? : List Char → Option (List Char × List Char)
  | [] => none
  | '"' :: rest => some ([], rest)
  | '\\' :: 'u' :: a :: b :: c :: d :: '\\' :: 'u' :: e :: f :: g :: h :: rest =>
    match unitOf? a b c d with
    | none => none
    | some high =>
      match isHighSurrogate high, unitOf? e f g h with
      | true, some low =>
        if isLowSurrogate low then
          (readChars? rest).map fun (cs, rest) => (charOfPair high low :: cs, rest)
        else
          (readChars? ('\\' :: 'u' :: e :: f :: g :: h :: rest)).map
            fun (cs, rest) => (charsOfUnit high ++ cs, rest)
      | _, _ =>
        (readChars? ('\\' :: 'u' :: e :: f :: g :: h :: rest)).map
          fun (cs, rest) => (charsOfUnit high ++ cs, rest)
  | '\\' :: 'u' :: a :: b :: c :: d :: rest =>
    match unitOf? a b c d with
    | none => none
    | some unit => (readChars? rest).map fun (cs, rest) => (charsOfUnit unit ++ cs, rest)
  | '\\' :: e :: rest =>
    match shortEscape? e with
    | none => none
    | some c => (readChars? rest).map fun (cs, rest) => (c :: cs, rest)
  | c :: rest =>
    if c < ' ' then none else (readChars? rest).map fun (cs, rest) => (c :: cs, rest)

def readText (cs : List Char) : Except ReadFailure (String × List Char) :=
  match readChars? cs with
  | some (chars, rest) => .ok (String.ofList chars, rest)
  | none => .error .malformed

def spanDigits (cs : List Char) : List Char × List Char :=
  (cs.takeWhile Char.isDigit, cs.dropWhile Char.isDigit)

/-- The whole part of a number: a zero, or digits that do not start with one. -/
def wholePart? : List Char → Option (List Char × List Char)
  | '0' :: rest => some (['0'], rest)
  | c :: rest => if c.isDigit then some (spanDigits (c :: rest)) else none
  | [] => none

def fractionPart (cs : List Char) : List Char × List Char :=
  match cs with
  | '.' :: rest =>
    match spanDigits rest with
    | ([], _) => ([], cs)
    | (ds, rest) => ('.' :: ds, rest)
  | _ => ([], cs)

def exponentPart (cs : List Char) : List Char × List Char :=
  match cs with
  | c :: rest =>
    if c = 'e' ∨ c = 'E' then
      let (sign, digits) := match rest with
        | '-' :: r => (['-'], r)
        | '+' :: r => (['+'], r)
        | r => ([], r)
      match spanDigits digits with
      | ([], _) => ([], cs)
      | (ds, rest) => (c :: sign ++ ds, rest)
    else ([], cs)
  | [] => ([], cs)

def readNumber (negative : Bool) (cs : List Char) : Except ReadFailure (Value × List Char) :=
  match wholePart? cs with
  | none => .error .malformed
  | some (whole, rest) =>
    let (fraction, rest) := fractionPart rest
    let (exponent, rest) := exponentPart rest
    if fraction.isEmpty && exponent.isEmpty then
      match Numeral.readNat? whole with
      | some n => .ok (.int (if negative then -n else n), rest)
      | none => .error .oversizedNumeral
    else
      match Binary64.readMagnitude? negative (whole ++ fraction ++ exponent) with
      | some x => .ok (.float x, rest)
      | none => .error .malformed

def afterWord? (word : String) (cs : List Char) : Option (List Char) :=
  let expected := word.toList
  if cs.take expected.length = expected then some (cs.drop expected.length) else none

def words : List (String × Value) := [
  ("null", .null), ("true", .bool true), ("false", .bool false), ("NaN", .float .nan),
  ("Infinity", .float (.infinite false)), ("-Infinity", .float (.infinite true))]

def readPlain (cs : List Char) : Except ReadFailure (Value × List Char) :=
  match words.findSome? fun (word, v) => (afterWord? word cs).map fun rest => (v, rest) with
  | some found => .ok found
  | none =>
    match cs with
    | '-' :: rest => readNumber true rest
    | _ => readNumber false cs

mutual

/-- A value at the start of a text. The fuel bounds the number of nested steps, and `depth` is how
many more lists and objects may be opened. -/
def readValue : Nat → Nat → List Char → Except ReadFailure (Value × List Char)
  | 0, _, _ => .error .malformed
  | fuel + 1, depth, cs =>
    match cs, depth with
    | '"' :: rest, _ => (readText rest).map fun (s, rest) => (.text s, rest)
    | '[' :: _, 0 | '\x7b' :: _, 0 => .error .tooDeep
    | '[' :: rest, depth + 1 =>
      match skipSpaces rest with
      | ']' :: rest => .ok (.list [], rest)
      | rest => (readItems fuel depth rest).map fun (items, rest) => (.list items, rest)
    | '\x7b' :: rest, depth + 1 =>
      match skipSpaces rest with
      | '\x7d' :: rest => .ok (.object [], rest)
      | rest =>
        (readMembers fuel depth ∅ rest).map fun (members, rest) => (.object members.entries, rest)
    | _, _ => readPlain cs

def readItems : Nat → Nat → List Char → Except ReadFailure (List Value × List Char)
  | 0, _, _ => .error .malformed
  | fuel + 1, depth, cs =>
    match readValue fuel depth cs with
    | .error e => .error e
    | .ok (v, rest) =>
      match skipSpaces rest with
      | ']' :: rest => .ok ([v], rest)
      | ',' :: rest =>
        (readItems fuel depth (skipSpaces rest)).map fun (items, rest) => (v :: items, rest)
      | _ => .error .malformed

/-- The members of an object up to its closing brace, added to those read before. -/
def readMembers : Nat → Nat → OrderedMap Value → List Char →
    Except ReadFailure (OrderedMap Value × List Char)
  | 0, _, _, _ => .error .malformed
  | fuel + 1, depth, members, cs =>
    match cs with
    | '"' :: rest =>
      match readText rest with
      | .error e => .error e
      | .ok (name, rest) =>
        match skipSpaces rest with
        | ':' :: rest =>
          match readValue fuel depth (skipSpaces rest) with
          | .error e => .error e
          | .ok (v, rest) =>
            let members := members.insert name v
            match skipSpaces rest with
            | '\x7d' :: rest => .ok (members, rest)
            | ',' :: rest => readMembers fuel depth members (skipSpaces rest)
            | _ => .error .malformed
        | _ => .error .malformed
    | _ => .error .malformed

end

def read (text : String) : Except ReadFailure Value :=
  let cs := text.toList
  match readValue (2 * cs.length + 2) depthLimit (skipSpaces cs) with
  | .error e => .error e
  | .ok (v, rest) => if (skipSpaces rest).isEmpty then .ok v else .error .malformed

end Bitemporal.Json
