import Bitemporal.InstantFormat

/-!
# Instants

A point on either time axis: a number of milliseconds from 0 up to the largest signed 64-bit
number. That largest number is `Instant.now`, the end of an interval that is still open.
-/

namespace Bitemporal

/-- The millisecond count that stands for an open end. -/
def nowMillis : Nat := 9223372036854775807

structure Instant where
  millis : Nat
  le_now : millis ≤ nowMillis
  deriving DecidableEq

namespace Instant

def earliest : Instant := ⟨0, Nat.zero_le _⟩

def now : Instant := ⟨nowMillis, Nat.le_refl _⟩

instance : Inhabited Instant := ⟨earliest⟩

def ofMillis (n : Int) : Except InputError Instant :=
  if n < 0 then .error (.negativeInstant n)
  else if h : n.toNat ≤ nowMillis then .ok ⟨n.toNat, h⟩
  else .error (.oversizedInstant n)

def ofValue : Value → Except Error Instant
  | .int n =>
    match ofMillis n with
    | .ok i => .ok i
    | .error (.oversizedInstant n) => .error (.showing (.int n) (.input (.oversizedInstant n)))
    | .error e => .error (.input e)
  | v => .error (.input (.nonIntegerInstant v))

def isNow (i : Instant) : Bool := i.millis = nowMillis

def isEarliest (i : Instant) : Bool := i.millis = 0

def after (i j : Instant) : Bool := j.millis < i.millis

/-- The later of two instants, the second if they are equal. -/
def later (i j : Instant) : Instant := if j.millis < i.millis then i else j

/-- The calendar date of an instant; the open end has none, and neither have instants after the
year 9999. -/
def dateTime (i : Instant) : Except Error DateTime :=
  if i.isNow then .error (.input (.openInstant i.millis))
  else
    match DateTime.ofMillis? i.millis with
    | some t => .ok t
    | none => .error .overflow

def write (i : Instant) (f : InstantFormat) : Except Error String := f.write i.millis

def digits (i : Instant) : String := Numeral.ofNat i.millis

@[simp] theorem isNow_now : now.isNow = true := by simp [isNow, now]

theorem eq_now_of_isNow {i : Instant} (h : i.isNow = true) : i = now := by
  obtain ⟨n, hn⟩ := i
  simpa [isNow, now] using h

end Instant

end Bitemporal
