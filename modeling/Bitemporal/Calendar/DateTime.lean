import Bitemporal.Calendar.Date

/-!
# Dates with a time of day

A date-time has microsecond precision and may carry its distance from universal time. Without one
it is taken to be universal time. `DateTime.micros` counts microseconds from the epoch, and
`DateTime.millis` is that count in milliseconds, rounded down.
-/

namespace Bitemporal

structure TimeOfDay where
  hour : Nat
  minute : Nat
  second : Nat
  micro : Nat
  hour_bound : hour < 24
  minute_bound : minute < 60
  second_bound : second < 60
  micro_bound : micro < 1000000
  deriving DecidableEq

namespace TimeOfDay

def midnight : TimeOfDay := ⟨0, 0, 0, 0, by decide, by decide, by decide, by decide⟩

def make? (hour minute second micro : Nat) : Option TimeOfDay :=
  if h : hour < 24 ∧ minute < 60 ∧ second < 60 ∧ micro < 1000000 then
    some ⟨hour, minute, second, micro, h.1, h.2.1, h.2.2.1, h.2.2.2⟩
  else none

def micros (t : TimeOfDay) : Nat :=
  ((t.hour * 60 + t.minute) * 60 + t.second) * 1000000 + t.micro

def ofMicros (n : Nat) : TimeOfDay :=
  ⟨n / 3600000000 % 24, n / 60000000 % 60, n / 1000000 % 60, n % 1000000,
    Nat.mod_lt _ (by decide), Nat.mod_lt _ (by decide), Nat.mod_lt _ (by decide),
    Nat.mod_lt _ (by decide)⟩

end TimeOfDay

def microsPerDay : Nat := 86400000000

/-- A distance from universal time, east positive, of less than a day. -/
structure Offset where
  micros : Int
  lower_bound : -(microsPerDay : Int) < micros
  upper_bound : micros < microsPerDay
  deriving DecidableEq

namespace Offset

def utc : Offset := ⟨0, by decide, by decide⟩

def make? (micros : Int) : Option Offset :=
  if h : -(microsPerDay : Int) < micros ∧ micros < microsPerDay then some ⟨micros, h.1, h.2⟩
  else none

/-- An offset as a sign, hours and minutes, and seconds and microseconds where they are not
zero. -/
def iso (o : Offset) : String :=
  let n := o.micros.natAbs
  let seconds := n / 1000000 % 60
  let micro := n % 1000000
  let tail := if seconds = 0 ∧ micro = 0 then []
    else ':' :: Numeral.padded 2 seconds ++
      (if micro = 0 then [] else '.' :: Numeral.padded 6 micro)
  String.ofList ((if o.micros < 0 then '-' else '+') :: Numeral.padded 2 (n / 3600000000) ++
    ':' :: Numeral.padded 2 (n / 60000000 % 60) ++ tail)

end Offset

structure DateTime where
  date : Date
  time : TimeOfDay
  offset : Option Offset
  deriving DecidableEq

namespace DateTime

/-- Microseconds from the epoch to this moment, in universal time. -/
def micros (t : DateTime) : Int :=
  t.date.dayNumber * microsPerDay + t.time.micros - (t.offset.getD Offset.utc).micros

/-- Milliseconds from the epoch, rounded down. -/
def millis (t : DateTime) : Int := t.micros.fdiv 1000

def ofMillis? (millis : Int) : Option DateTime :=
  (Date.ofDayNumber? (millis.fdiv 86400000)).map fun date =>
    ⟨date, TimeOfDay.ofMicros ((millis.fmod 86400000).toNat * 1000), some Offset.utc⟩

/-- Date and time joined by a mark, with microseconds unless they are zero, and the offset. -/
def joinedBy (mark : Char) (t : DateTime) : String :=
  let fraction := if t.time.micro = 0 then [] else '.' :: Numeral.padded 6 t.time.micro
  t.date.iso ++ String.ofList (mark :: Numeral.padded 2 t.time.hour ++
    ':' :: Numeral.padded 2 t.time.minute ++ ':' :: Numeral.padded 2 t.time.second ++ fraction) ++
    (t.offset.map Offset.iso).getD ""

def iso (t : DateTime) : String := t.joinedBy 'T'

end DateTime

end Bitemporal
