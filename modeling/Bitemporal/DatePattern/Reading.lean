import Bitemporal.Calendar.DateTime
import Bitemporal.DatePattern.Directive

/-!
# Reading a date-time by a pattern

The steps of a pattern are matched from left to right. Each step tries its forms in order of
preference and the first way in which all steps match is taken; it must then use up the whole
text. The captured parts are resolved to a date-time: a missing year is 1900, a missing month or
day is the first, and a week with a weekday or a day of the year overrides month and day.
-/

namespace Bitemporal.DatePattern

/-! ## Matching -/

def splitForm? : List CharClass → List Char → Option (List Char × List Char)
  | [], cs => some ([], cs)
  | _ :: _, [] => none
  | cls :: form, c :: cs =>
    if cls.admits c then (splitForm? form cs).map fun (front, rest) => (c :: front, rest) else none

/-- What can follow one or more blanks at the start of a text, after the longest run first. -/
def afterBlanks : List Char → List (List Char)
  | [] => []
  | c :: rest => if Text.isBlank c then afterBlanks rest ++ [rest] else []

abbrev Capture := Directive × List Char

def Item.matches : Item → List Char → List (List Capture × List Char)
  | literal l, c :: rest => if Text.sameLetter l c then [([], rest)] else []
  | literal _, [] => []
  | blanks, cs => (afterBlanks cs).map fun rest => ([], rest)
  | part d, cs =>
    d.forms.filterMap fun form => (splitForm? form cs).map fun (front, rest) => ([(d, front)], rest)

def firstMatch? : List Item → List Char → Option (List Capture × List Char)
  | [], cs => some ([], cs)
  | item :: items, cs =>
    (item.matches cs).findSome? fun (captured, rest) =>
      (firstMatch? items rest).map fun (more, left) => (captured ++ more, left)

/-! ## Resolving the captured parts -/

def number (cs : List Char) : Nat := Numeral.ofDigits (cs.filterMap Text.digitValue?)

def namePlace? (names : List (List Char)) (captured : List Char) : Option Nat :=
  let lower (cs : List Char) := cs.flatMap Text.lowerAsciiChar
  names.findIdx? fun name => lower name = lower captured

def microseconds (cs : List Char) : Nat := number cs * Nat.pow 10 (6 - cs.length)

/-- The part of an offset after its minutes, in microseconds: seconds and a fraction. They are set
off by a colon exactly if the minutes are. -/
def offsetTail? (colon : Bool) (cs : List Char) : Option Nat :=
  match cs, colon with
  | [], _ => some 0
  | ':' :: rest, true => some (seconds rest)
  | ':' :: _, false => none
  | _, true => none
  | rest, false => some (seconds rest)
where
  seconds (cs : List Char) : Nat :=
    number (cs.take 2) * 1000000 + microseconds (cs.drop 3)

def offsetMicros? : List Char → Option Int
  | ['Z'] => some 0
  | sign :: cs => do
    let hours := number (cs.take 2)
    let colon := (cs.drop 2).head? = some ':'
    let rest := if colon then cs.drop 3 else cs.drop 2
    let tail ← offsetTail? colon (rest.drop 2)
    let n : Nat := (hours * 60 + number (rest.take 2)) * 60000000 + tail
    return if sign = '-' then -n else n
  | [] => none

structure Parts where
  year : Option Nat := none
  isoYear : Option Nat := none
  month : Nat := 1
  day : Nat := 1
  hour : Nat := 0
  minute : Nat := 0
  second : Nat := 0
  micro : Nat := 0
  /-- From Monday = 0. -/
  weekday : Option Nat := none
  /-- From 1 January = 1. -/
  dayOfYear : Option Int := none
  /-- Whether weeks start on Monday, and the week. -/
  week : Option (Bool × Nat) := none
  isoWeek : Option Nat := none
  offset : Option Offset := none

/-- Two digits stand for a year from 1969 to 2068. -/
def fullYear (short : Nat) : Nat := if short ≤ 68 then 2000 + short else 1900 + short

def hourOfDay (afternoon : Bool) (hour : Nat) : Nat :=
  if afternoon then if hour = 12 then 12 else hour + 12 else if hour = 12 then 0 else hour

def isAfternoon (captures : List Capture) : Bool :=
  captures.any fun (d, cs) => d = .halfDay ∧ namePlace? Calendar.halfDayNames cs = some 1

/-- The parts with one more capture; a later capture of the same quantity wins. -/
def Parts.record? (afternoon : Bool) (p : Parts) : Capture → Option Parts
  | (.shortYear, cs) => some { p with year := fullYear (number cs) }
  | (.year, cs) => some { p with year := number cs }
  | (.isoYear, cs) => some { p with isoYear := number cs }
  | (.month, cs) => some { p with month := number cs }
  | (.monthName, cs) =>
    (namePlace? Calendar.monthNames cs).map fun i => { p with month := i + 1 }
  | (.monthAbbreviation, cs) =>
    (namePlace? (Calendar.monthNames.map Calendar.abbreviated) cs).map
      fun i => { p with month := i + 1 }
  | (.day, cs) => some { p with day := number cs }
  | (.hour24, cs) => some { p with hour := number cs }
  | (.hour12, cs) => some { p with hour := hourOfDay afternoon (number cs) }
  | (.minute, cs) => some { p with minute := number cs }
  | (.second, cs) => some { p with second := number cs }
  | (.microsecond, cs) => some { p with micro := microseconds cs }
  | (.weekdayName, cs) =>
    (namePlace? Calendar.weekdayNames cs).map fun i => { p with weekday := some i }
  | (.weekdayAbbreviation, cs) =>
    (namePlace? (Calendar.weekdayNames.map Calendar.abbreviated) cs).map
      fun i => { p with weekday := some i }
  | (.weekdayFromSunday, cs) => some { p with weekday := some ((number cs + 6) % 7) }
  | (.weekdayFromMonday, cs) => some { p with weekday := some (number cs - 1) }
  | (.dayOfYear, cs) => some { p with dayOfYear := some (number cs : Int) }
  | (.weekFromSunday, cs) => some { p with week := some (false, number cs) }
  | (.weekFromMonday, cs) => some { p with week := some (true, number cs) }
  | (.isoWeek, cs) => some { p with isoWeek := number cs }
  | (.offset, cs) => do
    let offset ← Offset.make? (← offsetMicros? cs)
    return { p with offset := some offset }
  | (.halfDay, _) | (.zone, _) => some p

def Parts.ofCaptures? (captures : List Capture) : Option Parts :=
  captures.foldlM (Parts.record? (isAfternoon captures)) {}

def firstDay? (year : Nat) : Option Int := (Date.make? year 1 1).map Date.dayNumber

/-- The day of the year of a weekday in a week; it may lie outside the year. Week 0 holds the days
before the first Monday, or Sunday, of the year. -/
def dayOfWeek? (year : Nat) (fromMonday : Bool) (week weekday : Nat) : Option Int := do
  let newYear ← Date.make? year 1 1
  let shift (d : Nat) : Nat := if fromMonday then d else (d + 1) % 7
  let first : Int := shift newYear.weekday
  let day : Int := shift weekday
  if week = 0 then return 1 + day - first
  else return 1 + (7 - first) % 7 + 7 * (week - 1 : Nat) + day

/-- The calendar year and the day of it of a weekday in a numbered week; the first week of a
year is the one with 4 January. -/
def dayOfIsoWeek? (isoYear isoWeek weekday : Nat) : Option (Nat × Int) := do
  let fourth ← Date.make? isoYear 1 4
  let n : Int := 7 * isoWeek + (weekday + 1) - (fourth.weekday + 1 + 3)
  if n < 1 then
    let before ← firstDay? (isoYear - 1)
    return (isoYear - 1, n + (← firstDay? isoYear) - before)
  else return (isoYear, n)

/-- Whether the parts name the week and year of a date consistently. A year of numbered weeks that
stands alone needs a numbered week and a weekday and excludes a day of the year. In all other cases
a numbered week needs another week beside it. -/
def Parts.weeksAgree (p : Parts) : Bool :=
  -- The older of two rules in use. The later one also asks this of a year of numbered weeks beside
  -- another year, and refuses every numbered week without such a year.
  if p.year.isNone && p.isoYear.isSome then
    p.isoWeek.isSome && p.weekday.isSome && p.dayOfYear.isNone
  else p.week.isSome || p.isoWeek.isNone

/-- The year and the day of it that the parts fix without a month, if any. -/
def Parts.yearDay? (p : Parts) (year : Nat) : Option (Nat × Option Int) :=
  match p.dayOfYear, p.weekday with
  | some n, _ => some (year, some n)
  | none, none => some (year, none)
  | none, some weekday => do
    let (year, n) ← match p.week, p.isoYear, p.isoWeek with
      | some (fromMonday, week), _, _ =>
        (dayOfWeek? year fromMonday week weekday).map fun n => (year, some n)
      | none, some isoYear, some isoWeek =>
        (dayOfIsoWeek? isoYear isoWeek weekday).map fun (y, n) => (y, some n)
      | none, _, _ => some (year, none)
    match n with
    | none => return (year, none)
    | some n =>
      if n ≤ 0 then return (year - 1, some (n + Calendar.daysInYear (year - 1)))
      else return (year, some n)

/-- The date of the parts. Without a year, 29 February is looked up in a leap year, and the result
is moved to 1900. -/
def Parts.date? (p : Parts) : Option Date :=
  if !p.weeksAgree then none
  else do
    let leapDay := p.year.isNone && p.month = 2 && p.day = 29
    let (year, n) ← p.yearDay? (p.year.getD (if leapDay then 1904 else 1900))
    let date ← match n with
      | none => Date.make? year p.month p.day
      | some n => do Date.ofDayNumber? ((← firstDay? year) + n - 1)
    if leapDay then Date.make? 1900 date.month date.day else return date

def Parts.dateTime? (p : Parts) : Option DateTime := do
  let date ← p.date?
  let time ← TimeOfDay.make? p.hour p.minute p.second p.micro
  return ⟨date, time, p.offset⟩

inductive ReadFailure where
  /-- The pattern is malformed or the text does not match it. -/
  | mismatch
  /-- The pattern asks for the same part twice. -/
  | repeated
  deriving DecidableEq

def isDistinct : List Directive → Bool
  | [] => true
  | d :: rest => !rest.contains d && isDistinct rest

def read (pattern text : List Char) : Except ReadFailure DateTime :=
  match items? pattern with
  | none => .error .mismatch
  | some items =>
    if !isDistinct (items.filterMap Item.directive?) then .error .repeated
    else
      match firstMatch? items text with
      | some (captures, []) =>
        match Parts.ofCaptures? captures >>= Parts.dateTime? with
        | some t => .ok t
        | none => .error .mismatch
      | _ => .error .mismatch

end Bitemporal.DatePattern
