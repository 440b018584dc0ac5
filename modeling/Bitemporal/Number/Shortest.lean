import Bitemporal.Number.Binary64
import Bitemporal.Number.Numeral

/-!
# Decimal text of doubles

A double is written with the fewest digits that read back to it, and among those with the digits
nearest to it. From 10⁻⁴ up to, but not including, 10¹⁶ the notation is positional and always has
a fractional part; outside it has an exponent with a sign and at least two digits.

Reading rounds the exact decimal value once. It accepts blanks around the number, underscores
between digits, and the names of infinity and of the undefined number in any case.
-/

namespace Bitemporal.Binary64

/-! ## Writing -/

/-- `a · 10ᵏ` and `b` as a pair of whole numbers in the same proportion. -/
def scale (a b : Nat) (k : Int) : Nat × Nat :=
  if 0 ≤ k then (a * Nat.pow 10 k.toNat, b) else (a, b * Nat.pow 10 (-k).toNat)

/-- The least `e`, from a lower estimate on, for which a magnitude is below `10ᵉ`. -/
def decimalExponent (units : Nat) : Nat → Int → Int
  | 0, e => e
  | fuel + 1, e =>
    let (power, scaled) := scale unitsPerOne units e
    if scaled < power then e else decimalExponent units fuel (e + 1)

/-- A lower estimate of the decimal exponent, at most a few steps short. -/
def exponentEstimate (units : Nat) : Int :=
  ((units.log2 : Int) - 1074) * 30103 / 100000 - 1

def lowerGap (units : Nat) : Nat :=
  if units / grain units = Nat.pow 2 52 ∧ 1 < grain units then grain units / 2 else grain units

/-- Whether the decimal `digits · 10ᵏ` reads back as the double with this magnitude: it lies
between the midpoints to both neighbours, which count for an even significand. -/
def readsBack (units digits : Nat) (k : Int) : Bool :=
  let (value, unit) := scale (digits * (2 * unitsPerOne)) 1 k
  let low := (2 * units - lowerGap units) * unit
  let high := (2 * units + grain units) * unit
  if (units / grain units) % 2 = 0 then low ≤ value && value ≤ high
  else low < value && value < high

/-- Of the two neighbours of a magnitude on the decimal grid `10ᵏ`, the one that reads back; of
two the nearer, and of two equally near the even one. -/
def onGrid? (units : Nat) (k : Int) : Option Nat :=
  let (grid, scaled) := scale unitsPerOne units k
  let below := scaled / grid
  let rest := scaled % grid
  match readsBack units below k, readsBack units (below + 1) k with
  | false, false => none
  | true, false => some below
  | false, true => some (below + 1)
  | true, true =>
    if 2 * rest < grid ∨ (2 * rest = grid ∧ below % 2 = 0) then some below else some (below + 1)

def shortestFrom (units : Nat) (exponent : Int) : Nat → Nat → Nat × Int
  | 0, count => (units, exponent - count)
  | fuel + 1, count =>
    match onGrid? units (exponent - count) with
    | some digits => (digits, exponent - count)
    | none => shortestFrom units exponent fuel (count + 1)

/-- Digits `d` and exponent `k` such that `d · 10ᵏ` is the shortest decimal of a magnitude. -/
def shortest (units : Nat) : Nat × Int :=
  shortestFrom units (decimalExponent units 4 (exponentEstimate units)) 17 1

/-- Digits without their trailing zeros, whose number is added to the exponent. -/
def dropZeros : Nat → Nat → Int → Nat × Int
  | 0, digits, k => (digits, k)
  | fuel + 1, digits, k =>
    if digits ≠ 0 ∧ digits % 10 = 0 then dropZeros fuel (digits / 10) (k + 1) else (digits, k)

def exponentDigits (e : Int) : List Char :=
  (if e < 0 then '-' else '+') ::
    (if e.natAbs < 10 then '0' :: Numeral.natDigits e.natAbs else Numeral.natDigits e.natAbs)

def layout (digits : List Char) (k : Int) : List Char :=
  let point := digits.length + k
  if -4 < point ∧ point ≤ 16 then
    if point ≤ 0 then '0' :: '.' :: (List.replicate (-point).toNat '0' ++ digits)
    else if 0 ≤ k then digits ++ List.replicate k.toNat '0' ++ ['.', '0']
    else digits.take point.toNat ++ '.' :: digits.drop point.toNat
  else
    let fraction := match digits.drop 1 with
      | [] => []
      | rest => '.' :: rest
    digits.take 1 ++ fraction ++ 'e' :: exponentDigits (point - 1)

def magnitudeText (units : Nat) : List Char :=
  if units = 0 then ['0', '.', '0']
  else
    let (digits, k) := shortest units
    let (digits, k) := dropZeros 18 digits k
    layout (Numeral.natDigits digits) k

def text : Binary64 → String
  | nan => "nan"
  | infinite false => "inf"
  | infinite true => "-inf"
  | finite false u _ => String.ofList (magnitudeText u)
  | finite true u _ => String.ofList ('-' :: magnitudeText u)

/-! ## Reading -/

/-- The double nearest to `digits · 10ᵏ`. Exponents far outside the range of doubles are settled
without computing the power. -/
def ofDecimal (negative : Bool) (digits : Nat) (k : Int) : Binary64 :=
  let count : Int := (Numeral.natDigits digits).length
  if digits = 0 then ofRounded negative 0
  else if 400 < count + k then .infinite negative
  else if count + k < -400 then ofRounded negative 0
  else
    let (num, den) := scale (digits * unitsPerOne) 1 k
    ofUnits negative num den

/-- The digits at the start of a text, where a single underscore may separate two digits. -/
def spanDigits : List Char → List Nat × List Char
  | [] => ([], [])
  | c :: '_' :: next :: rest =>
    match Text.digitValue? c with
    | none => ([], c :: '_' :: next :: rest)
    | some d =>
      if Text.isDecimalDigit next then
        let (ds, tail) := spanDigits (next :: rest)
        (d :: ds, tail)
      else ([d], '_' :: next :: rest)
  | c :: rest =>
    match Text.digitValue? c with
    | none => ([], c :: rest)
    | some d =>
      let (ds, tail) := spanDigits rest
      (d :: ds, tail)

def readExponent? : List Char → Option Int
  | [] => some 0
  | c :: rest =>
    if c = 'e' ∨ c = 'E' then
      let (negative, body) := match rest with
        | '-' :: r => (true, r)
        | '+' :: r => (false, r)
        | r => (false, r)
      match spanDigits body with
      | ([], _) => none
      | (ds, []) =>
        let e : Int := Numeral.ofDigits ds
        some (if negative then -e else e)
      | _ => none
    else none

def spanFraction : List Char → List Nat × List Char
  | '.' :: '_' :: rest => ([], '.' :: '_' :: rest)
  | '.' :: rest => spanDigits rest
  | rest => ([], rest)

def readMagnitude? (negative : Bool) (cs : List Char) : Option Binary64 :=
  let (whole, rest) := spanDigits cs
  let (fraction, rest) := spanFraction rest
  if whole.isEmpty && fraction.isEmpty then none
  else
    (readExponent? rest).map fun e =>
      let digits := whole ++ fraction
      ofDecimal negative (Numeral.ofDigits digits) (e - fraction.length)

def named? (negative : Bool) (cs : List Char) : Option Binary64 :=
  let name := String.ofList (cs.map Char.toLower)
  if name = "inf" ∨ name = "infinity" then some (.infinite negative)
  else if name = "nan" then some .nan
  else none

def read? (cs : List Char) : Option Binary64 :=
  let (negative, body) := match Numeral.trimMargins cs with
    | '-' :: r => (true, r)
    | '+' :: r => (false, r)
    | r => (false, r)
  (named? negative body).or (readMagnitude? negative body)

def ofText? (s : String) : Option Binary64 := read? s.toList

end Bitemporal.Binary64
