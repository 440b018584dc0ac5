import Bitemporal.Calendar.DateTime

/-!
# Reading dates and times in ISO 8601 form

`YYYY-MM-DD`, and `YYYY-MM-DDThh:mm:ss` with a fraction of a second and an offset that may both be
absent. Seconds and minutes may be absent as well.
-/

namespace Bitemporal.Iso

def digits? (count : Nat) (cs : List Char) : Option (Nat × List Char) :=
  let head := cs.take count
  if head.length = count ∧ head.all Char.isDigit then
    some (Numeral.ofDigits (head.map fun c => c.toNat - 48), cs.drop count)
  else none

def mark? (c : Char) : List Char → Option (List Char)
  | d :: rest => if c = d then some rest else none
  | [] => none

/-- A fraction of a second as microseconds; digits past the sixth are dropped. -/
def fraction (cs : List Char) : Nat × List Char :=
  match cs with
  | '.' :: rest =>
    let ds := rest.takeWhile Char.isDigit
    let six := (ds ++ List.replicate 6 '0').take 6
    (Numeral.ofDigits (six.map fun c => c.toNat - 48), rest.dropWhile Char.isDigit)
  | _ => (0, cs)

def clock? (cs : List Char) : Option ((Nat × Nat × Nat × Nat) × List Char) := do
  let (hour, rest) ← digits? 2 cs
  match mark? ':' rest with
  | none => return ((hour, 0, 0, 0), rest)
  | some rest =>
    let (minute, rest) ← digits? 2 rest
    match mark? ':' rest with
    | none => return ((hour, minute, 0, 0), rest)
    | some rest =>
      let (second, rest) ← digits? 2 rest
      let (micro, rest) := fraction rest
      return ((hour, minute, second, micro), rest)

def offset? : List Char → Option (Option Offset)
  | [] => some none
  | ['Z'] => some (some Offset.utc)
  | sign :: rest => do
    let negative ← if sign = '-' then some true else if sign = '+' then some false else none
    let ((hour, minute, second, micro), rest) ← clock? rest
    if rest.isEmpty then
      let n : Int := (((hour * 60 + minute) * 60 + second) * 1000000 + micro : Nat)
      let o ← Offset.make? (if negative then -n else n)
      return some o
    else none

def spanDate? (cs : List Char) : Option (Date × List Char) := do
  let (year, rest) ← digits? 4 cs
  let rest ← mark? '-' rest
  let (month, rest) ← digits? 2 rest
  let rest ← mark? '-' rest
  let (day, rest) ← digits? 2 rest
  let date ← Date.make? year month day
  return (date, rest)

def date? (s : String) : Option Date := do
  let (date, rest) ← spanDate? s.toList
  if rest.isEmpty then some date else none

def dateTime? (s : String) : Option DateTime := do
  let (date, rest) ← spanDate? s.toList
  match rest with
  | [] => return ⟨date, TimeOfDay.midnight, none⟩
  | _ :: rest =>
    let ((hour, minute, second, micro), rest) ← clock? rest
    let time ← TimeOfDay.make? hour minute second micro
    let offset ← offset? rest
    return ⟨date, time, offset⟩

end Bitemporal.Iso
