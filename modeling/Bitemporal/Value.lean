import Bitemporal.Calendar.DateTime
import Bitemporal.Number.Shortest
import Bitemporal.Text.Quoted

/-!
# Untyped values

What a record column, a condition bound or a setting may hold before it is checked. `Value.kind`
names the kind of a value and `Value.shown` writes the value itself; both appear in messages. Not
every value can be shown: `Value.fault?` says what is in the way.
-/

namespace Bitemporal

inductive Value where
  | null
  | bool (b : Bool)
  | int (n : Int)
  | float (x : Binary64)
  | text (s : String)
  | bytes (data : List UInt8)
  | date (d : Date)
  | dateTime (t : DateTime)
  | list (items : List Value)
  | object (members : List (String × Value))
  deriving Inhabited

namespace Value

def kind : Value → String
  | null => "NoneType"
  | bool _ => "bool"
  | int _ => "int"
  | float _ => "float"
  | text _ => "str"
  | bytes _ => "bytes"
  | date _ => "date"
  | dateTime _ => "datetime"
  | list _ => "list"
  | object _ => "dict"

def commaSeparated (items : List String) : String := ", ".intercalate items

/-- A span of less than a day, given by its days, seconds and microseconds; zero parts are left
out. -/
def shownOffset (o : Offset) : String :=
  let part (name : String) (n : Int) : List String := if n = 0 then [] else [name ++ Numeral.ofInt n]
  let days := o.micros.fdiv microsPerDay
  let rest := o.micros.fmod microsPerDay
  let parts := part "days=" days ++ part "seconds=" (rest / 1000000) ++
    part "microseconds=" (rest % 1000000)
  "datetime.timezone(datetime.timedelta(" ++ commaSeparated parts ++ "))"

def shownDate (d : Date) : String :=
  "datetime.date(" ++ commaSeparated ([d.year, d.month, d.day].map Numeral.ofNat) ++ ")"

/-- The parts of a date-time; seconds and microseconds are left out when nothing but zeros
follows. -/
def shownDateTime (t : DateTime) : String :=
  let tail := if t.time.micro = 0 then if t.time.second = 0 then [] else [t.time.second]
    else [t.time.second, t.time.micro]
  let parts := [t.date.year, t.date.month, t.date.day, t.time.hour, t.time.minute] ++ tail
  let zone := match t.offset with
    | none => []
    | some o => ["tzinfo=" ++ if o.micros = 0 then "datetime.timezone.utc" else shownOffset o]
  "datetime.datetime(" ++ commaSeparated (parts.map Numeral.ofNat ++ zone) ++ ")"

mutual

/-- A value as it appears inside messages. -/
def shown : Value → String
  | null => "None"
  | bool true => "True"
  | bool false => "False"
  | int n => Numeral.ofInt n
  | float x => x.text
  | text s => Text.quoted s
  | bytes data => Text.quotedBytes data
  | date d => shownDate d
  | dateTime t => shownDateTime t
  | list items => "[" ++ commaSeparated (shownItems items) ++ "]"
  | object members => "\x7b" ++ commaSeparated (shownMembers members) ++ "\x7d"

def shownItems : List Value → List String
  | [] => []
  | v :: rest => shown v :: shownItems rest

def shownMembers : List (String × Value) → List String
  | [] => []
  | (name, v) :: rest => (Text.quoted name ++ ": " ++ shown v) :: shownMembers rest

end

inductive Fault where
  /-- An integer has more digits than a numeral may have. -/
  | oversizedNumeral
  /-- Too many values stand inside one another. -/
  | tooDeep
  deriving DecidableEq

/-- How many values may stand inside one another where one is shown at the start of a program. -/
def depthLimit : Nat := 996

/-- How many values deep the offset of a date-time is shown: the one of universal time has a name. -/
def offsetDepth (t : DateTime) : Nat :=
  match t.offset with
  | none => 0
  | some o => if o.micros = 0 then 1 else 2

mutual

/-- The first fault that showing a value meets, if it meets any, with room for so many values inside
one another. -/
def fault? : Nat → Value → Option Fault
  | 0, _ => some .tooDeep
  | room + 1, dateTime t => if offsetDepth t ≤ room then none else some .tooDeep
  | _ + 1, int n => if Numeral.isWritable n then none else some .oversizedNumeral
  | room + 1, list items => itemsFault? room items
  | room + 1, object members => membersFault? room members
  | _ + 1, _ => none

def itemsFault? (room : Nat) : List Value → Option Fault
  | [] => none
  | v :: rest => (fault? room v).or (itemsFault? room rest)

-- A name is shown like a text, in front of its value.
def membersFault? (room : Nat) : List (String × Value) → Option Fault
  | [] => none
  | (name, v) :: rest =>
    ((fault? room (text name)).or (fault? room v)).or (membersFault? room rest)

end

/-- The text that a value prints as on its own: texts stand without quotes, and dates are written
in digits. -/
def plain : Value → String
  | text s => s
  | date d => d.iso
  | dateTime t => t.joinedBy ' '
  | v => shown v

def isNull : Value → Bool
  | null => true
  | _ => false

end Value

end Bitemporal
