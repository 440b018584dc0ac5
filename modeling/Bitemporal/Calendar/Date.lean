import Bitemporal.Number.Numeral

/-!
# Calendar dates

Dates of the Gregorian calendar from year 1 to year 9999. `Date.dayNumber` counts the days from
1 January 1970, and `Date.ofDayNumber?` is its inverse on the days that have a date.
-/

namespace Bitemporal

namespace Calendar

def isLeap (year : Nat) : Bool := year % 4 = 0 && (year % 100 ≠ 0 || year % 400 = 0)

def monthLengths (year : Nat) : List Nat :=
  [31, if isLeap year then 29 else 28, 31, 30, 31, 30, 31, 31, 30, 31, 30, 31]

def daysInMonth (year month : Nat) : Nat := (monthLengths year).getD (month - 1) 0

def daysInYear (year : Nat) : Nat := if isLeap year then 366 else 365

def daysBeforeYear (year : Nat) : Nat :=
  let y := year - 1
  365 * y + y / 4 - y / 100 + y / 400

def daysBeforeMonth (year month : Nat) : Nat :=
  ((monthLengths year).take (month - 1)).foldr (· + ·) 0

/-- Days before 1 January 1970, counted from year 1. -/
def epochDays : Nat := 719162

/-- The year that a count of days from 1 January of year 1 falls in. The first guess divides by
the mean length of a year and is at most one year off. -/
def yearOfDays (days : Nat) : Nat :=
  let guess := days * 400 / 146097 + 1
  if days < daysBeforeYear guess then guess - 1
  else if daysBeforeYear (guess + 1) ≤ days then guess + 1
  else guess

def monthAndDay : List Nat → Nat → Nat × Nat
  | [], days => (1, days + 1)
  | length :: rest, days =>
    if days < length then (1, days + 1)
    else
      let (month, day) := monthAndDay rest (days - length)
      (month + 1, day)

end Calendar

structure Date where
  year : Nat
  month : Nat
  day : Nat
  year_bounds : 1 ≤ year ∧ year ≤ 9999
  month_bounds : 1 ≤ month ∧ month ≤ 12
  day_bounds : 1 ≤ day ∧ day ≤ Calendar.daysInMonth year month
  deriving DecidableEq

namespace Date

def make? (year month day : Nat) : Option Date :=
  if hy : 1 ≤ year ∧ year ≤ 9999 then
    if hm : 1 ≤ month ∧ month ≤ 12 then
      if hd : 1 ≤ day ∧ day ≤ Calendar.daysInMonth year month then
        some ⟨year, month, day, hy, hm, hd⟩
      else none
    else none
  else none

def dayOfYear (d : Date) : Nat := Calendar.daysBeforeMonth d.year d.month + (d.day - 1)

/-- Days since 1 January 1970. -/
def dayNumber (d : Date) : Int :=
  (Calendar.daysBeforeYear d.year + d.dayOfYear : Nat) - (Calendar.epochDays : Int)

def ofDayNumber? (n : Int) : Option Date :=
  let days := n + Calendar.epochDays
  if days < 0 then none
  else
    let year := Calendar.yearOfDays days.toNat
    let (month, day) := Calendar.monthAndDay (Calendar.monthLengths year)
      (days.toNat - Calendar.daysBeforeYear year)
    make? year month day

/-- The day of the week, from Monday = 0 to Sunday = 6. -/
def weekday (d : Date) : Nat := ((d.dayNumber + 3) % 7).toNat

def iso (d : Date) : String :=
  String.ofList (Numeral.padded 4 d.year ++ '-' :: Numeral.padded 2 d.month ++
    '-' :: Numeral.padded 2 d.day)

end Date

end Bitemporal
