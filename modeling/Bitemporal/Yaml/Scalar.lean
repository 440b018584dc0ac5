import Bitemporal.Calendar.Iso
import Bitemporal.Value
import Bitemporal.Yaml.Fault

/-!
# YAML scalars

A plain scalar stands for whatever its text looks like: a truth value, a number in several bases,
a moment, nothing, or else a text. The forms are those of version 1.1. A tag says explicitly what
a scalar stands for, and then its text has to be readable as that.
-/

namespace Bitemporal.Yaml

inductive Tag where
  | null
  | bool
  | int
  | float
  | moment
  | text
  | binary
  /-- The sign that merges mappings. -/
  | merge
  /-- The sign for the default value of a mapping. -/
  | default
  | sequence
  | mapping
  | set
  | pairs
  | orderedPairs
  | other
  deriving DecidableEq

namespace Tag

def standardPrefix : String := "tag:yaml.org,2002:"

def standard : List (String × Tag) := [
  ("null", null), ("bool", bool), ("int", int), ("float", float), ("timestamp", moment),
  ("str", text), ("binary", binary), ("merge", merge), ("value", default), ("seq", sequence),
  ("map", mapping), ("set", set), ("pairs", pairs), ("omap", orderedPairs)]

def ofName (name : String) : Tag :=
  ((standard.find? fun entry => standardPrefix ++ entry.1 = name).map Prod.snd).getD other

/-! ## Forms of plain scalars -/

def nullWords : List String := ["", "~", "null", "Null", "NULL"]

def falseWords : List String :=
  ["no", "No", "NO", "false", "False", "FALSE", "off", "Off", "OFF"]

def trueWords : List String := ["yes", "Yes", "YES", "true", "True", "TRUE", "on", "On", "ON"]

def isGroupedDigit (c : Char) : Bool := c.isDigit || c = '_'

def withoutBreak (cs : List Char) : List Char :=
  if cs.getLast? = some '\n' then cs.dropLast else cs

def unsigned : List Char → List Char
  | '-' :: rest => rest
  | '+' :: rest => rest
  | cs => cs

/-- A part of a number in base sixty after its first. -/
def isSixtieth : List Char → Bool
  | [c] => c.isDigit
  | [c, d] => '0' ≤ c && c ≤ '5' && d.isDigit
  | _ => false

def isSexagesimal (first : Char → Bool) (cs : List Char) : Bool :=
  match cs.splitOn ':' with
  | (c :: digits) :: part :: parts =>
    first c && digits.all isGroupedDigit && (part :: parts).all isSixtieth
  | _ => false

def isPositiveDigit (c : Char) : Bool := c.isDigit && c ≠ '0'

def isInt (cs : List Char) : Bool :=
  let body := unsigned cs
  match body with
  | ['0'] => true
  | '0' :: 'b' :: digits => !digits.isEmpty && digits.all fun c => c = '0' || c = '1' || c = '_'
  | '0' :: 'x' :: digits =>
    !digits.isEmpty && digits.all fun c => (Text.hexValue? c).isSome || c = '_'
  | '0' :: digits => digits.all fun c => ('0' ≤ c && c ≤ '7') || c = '_'
  | c :: digits =>
    (isPositiveDigit c && digits.all isGroupedDigit) || isSexagesimal isPositiveDigit body
  | [] => false

def isExponent : List Char → Bool
  | [] => true
  | c :: s :: digits =>
    (c = 'e' || c = 'E') && (s = '-' || s = '+') && !digits.isEmpty && digits.all Char.isDigit
  | _ => false

def isFloat (cs : List Char) : Bool :=
  let body := unsigned cs
  let whole := body.takeWhile (· ≠ '.')
  match body.dropWhile (· ≠ '.') with
  | [] => false
  | _ :: rest =>
    let fraction := rest.takeWhile isGroupedDigit
    let tail := rest.dropWhile isGroupedDigit
    match whole with
    | [] =>
      (fraction.head?.any Char.isDigit && isExponent tail && body.length = cs.length) ||
        ["inf", "Inf", "INF"].contains (String.ofList rest) ||
        (["nan", "NaN", "NAN"].contains (String.ofList rest) && body.length = cs.length)
    | c :: digits =>
      (c.isDigit && digits.all isGroupedDigit && isExponent tail) ||
        (isSexagesimal Char.isDigit whole && tail.isEmpty)

def digits? (least most : Nat) (cs : List Char) : Option (List Char × List Char) :=
  let digits := (cs.take most).takeWhile Char.isDigit
  if least ≤ digits.length then some (digits, cs.drop digits.length) else none

end Tag

structure MomentText where
  year : List Char
  month : List Char
  day : List Char
  /-- Hour, minute, second and fraction. -/
  clock : Option (List Char × List Char × List Char × List Char) := none
  /-- The sign of the offset, its hours and its minutes; without a sign, universal time. -/
  zone : Option (Option Char × List Char × List Char) := none

namespace MomentText

open Tag

def zone? (cs : List Char) : Option (Option (Option Char × List Char × List Char)) :=
  match cs.dropWhile fun c => c = ' ' || c = '\t' with
  | [] => if cs.isEmpty then some none else none
  | ['Z'] => some (some (none, [], []))
  | sign :: rest =>
    if sign = '-' ∨ sign = '+' then do
      let (hours, rest) ← digits? 1 2 rest
      match rest with
      | [] => some (some (some sign, hours, []))
      | ':' :: rest =>
        let (minutes, rest) ← digits? 2 2 rest
        if rest.isEmpty then some (some (some sign, hours, minutes)) else none
      | _ => none
    else none

def withClock? (m : MomentText) (cs : List Char) : Option MomentText := do
  let (hour, rest) ← digits? 1 2 cs
  let (minute, rest) ← Iso.mark? ':' rest >>= digits? 2 2
  let (second, rest) ← Iso.mark? ':' rest >>= digits? 2 2
  let (fraction, rest) := match rest with
    | '.' :: rest => (rest.takeWhile Char.isDigit, rest.dropWhile Char.isDigit)
    | _ => ([], rest)
  let zone ← zone? rest
  return { m with clock := some (hour, minute, second, fraction), zone }

def read? (cs : List Char) : Option MomentText := do
  let (year, rest) ← digits? 4 4 cs
  let (month, rest) ← Iso.mark? '-' rest >>= digits? 1 2
  let (day, rest) ← Iso.mark? '-' rest >>= digits? 1 2
  match rest with
  | [] => some { year, month, day }
  | c :: tail =>
    if c = 'T' ∨ c = 't' then withClock? { year, month, day } tail
    else if c = ' ' ∨ c = '\t' then
      withClock? { year, month, day } (rest.dropWhile fun c => c = ' ' || c = '\t')
    else none

def number (digits : List Char) : Nat := Numeral.ofDigits (digits.map fun c => c.toNat - 48)

def offset? : Option Char × List Char × List Char → Option Offset
  | (none, _, _) => some Offset.utc
  | (some sign, hours, minutes) =>
    let n : Int := ((number hours * 60 + number minutes) * 60000000 : Nat)
    Offset.make? (if sign = '-' then -n else n)

def value? (m : MomentText) : Option Value := do
  let date ← Date.make? (number m.year) (number m.month) (number m.day)
  match m.clock with
  | none => return .date date
  | some (hour, minute, second, fraction) =>
    let micro := number ((fraction ++ List.replicate 6 '0').take 6)
    let time ← TimeOfDay.make? (number hour) (number minute) (number second) micro
    match m.zone with
    | none => return .dateTime ⟨date, time, none⟩
    | some zone => return .dateTime ⟨date, time, some (← offset? zone)⟩

/-- Whether a plain scalar is a moment. Without a time of day, month and day have two digits. -/
def isPlain (cs : List Char) : Bool :=
  match read? cs with
  | none => false
  | some m => m.clock.isSome || (m.month.length = 2 && m.day.length = 2)

end MomentText

namespace Tag

/-- What a plain scalar stands for. A line break at its end does not count, but it is not nothing. -/
def ofPlain (s : String) : Tag :=
  let cs := withoutBreak s.toList
  let word := String.ofList cs
  if s = "\n" then text
  else if falseWords.contains word || trueWords.contains word then bool
  else if isFloat cs then float
  else if isInt cs then int
  else if word = "<<" then merge
  else if nullWords.contains word then null
  else if MomentText.isPlain cs then moment
  else if word = "=" then default
  else if ["!", "&", "*"].contains word then other
  else text

end Tag

/-! ## Values -/

namespace Scalar

def signed : List Char → Bool × List Char
  | '-' :: rest => (true, rest)
  | '+' :: rest => (false, rest)
  | cs => (false, cs)

def baseLetters : Nat → List Char
  | 2 => ['b', 'B']
  | 8 => ['o', 'O']
  | 16 => ['x', 'X']
  | _ => []

def announced (base : Nat) (cs : List Char) : List Char :=
  match cs with
  | zero :: letter :: rest =>
    if Text.digitValue? zero = some 0 && (baseLetters base).contains letter then rest else cs
  | _ => cs

def inBase? (base : Nat) (cs : List Char) : Option Int :=
  let (negative, body) := signed (Numeral.trimMargins cs)
  match announced base body with
  | [] => none
  | digits =>
    (digits.foldlM (fun n c => do
      let d ← (Text.hexValue? c).or (Text.digitValue? c)
      if d < base then some (base * n + d) else none) 0).map
        fun n => if negative then -(n : Int) else n

def magnitude? : List Char → Option Int
  | '0' :: 'b' :: digits => inBase? 2 digits
  | '0' :: 'x' :: digits => inBase? 16 digits
  | '0' :: digits => inBase? 8 ('0' :: digits)
  | cs => (cs.splitOn ':').foldlM (fun n part => (Numeral.readInt? part).map fun d => 60 * n + d) 0

def int (cs : List Char) : Except Fault Value :=
  let (negative, body) := signed (cs.filter (· ≠ '_'))
  if body.isEmpty then .error .emptyNumber
  else
    match magnitude? body with
    | some n => .ok (.int (if negative then -n else n))
    | none => .error .unreadable

/-- A number in base sixty, least significant part first. `unit` is what the next part counts. -/
def sumOfSixtieths (total : Binary64) (unit : Nat) : List Binary64 → Except Fault Binary64
  | [] => .ok total
  | x :: rest =>
    match Binary64.ofInt? unit with
    | some u => sumOfSixtieths (total + x * u) (60 * unit) rest
    | none => .error .tooLarge

def float (cs : List Char) : Except Fault Value :=
  let (negative, body) := signed ((cs.filter (· ≠ '_')).map Char.toLower)
  let result (x : Binary64) : Except Fault Value := .ok (.float (if negative then -x else x))
  if cs.all (· = '_') then .error .emptyNumber
  else if body = ".inf".toList then result (.infinite false)
  else if body = ".nan".toList then .ok (.float .nan)
  else if body.contains ':' then
    match (body.splitOn ':').mapM Binary64.read? with
    | some parts =>
      match sumOfSixtieths 0 1 parts.reverse with
      | .ok x => result x
      | .error f => .error f
    | none => .error .unreadable
  else
    match Binary64.read? body with
    | some x => result x
    | none => .error .unreadable

def moment (cs : List Char) : Except Fault Value :=
  match MomentText.read? (Tag.withoutBreak cs) with
  | none => .error .notMoment
  | some m =>
    match m.value? with
    | some v => .ok v
    | none => .error .unreadable

def bool (cs : List Char) : Except Fault Value :=
  let word := String.ofList (cs.map Char.toLower)
  if ["yes", "true", "on"].contains word then .ok (.bool true)
  else if ["no", "false", "off"].contains word then .ok (.bool false)
  else .error .unknownWord

/-! ### Base 64 -/

def sextet? (c : Char) : Option Nat :=
  if 'A' ≤ c ∧ c ≤ 'Z' then some (c.toNat - 65)
  else if 'a' ≤ c ∧ c ≤ 'z' then some (c.toNat - 71)
  else if c.isDigit then some (c.toNat + 4)
  else if c = '+' then some 62
  else if c = '/' then some 63
  else none

/-- Decodes four digits to three bytes. `place` counts the digits of the current group and `left`
holds their bits that are not part of a byte yet. Other characters are skipped. -/
def decode64? (place left pads : Nat) : List Char → Option (List UInt8)
  | [] => if place = 0 then some [] else none
  | c :: rest =>
    if c = '=' then
      if 2 ≤ place ∧ 4 ≤ place + pads + 1 then some []
      else decode64? place left (if 2 ≤ place then pads + 1 else pads) rest
    else
      match sextet? c, place with
      | none, _ => decode64? place left pads rest
      | some d, 0 => decode64? 1 d 0 rest
      | some d, 1 =>
        (decode64? 2 (d % 16) 0 rest).map fun bytes => (left * 4 + d / 16).toUInt8 :: bytes
      | some d, 2 =>
        (decode64? 3 (d % 4) 0 rest).map fun bytes => (left * 16 + d / 4).toUInt8 :: bytes
      | some d, _ => (decode64? 0 0 0 rest).map fun bytes => (left * 64 + d).toUInt8 :: bytes

def binary (cs : List Char) : Except Fault Value :=
  if cs.all fun c => c.toNat < 128 then
    match decode64? 0 0 0 cs with
    | some bytes => .ok (.bytes bytes)
    | none => .error .malformed
  else .error .malformed

def value (tag : Tag) (s : String) : Except Fault Value :=
  match tag with
  | .null => .ok .null
  | .bool => bool s.toList
  | .int => int s.toList
  | .float => float s.toList
  | .moment => moment s.toList
  | .text => .ok (.text s)
  | .binary => binary s.toList
  | _ => .error .malformed

end Scalar

end Bitemporal.Yaml
