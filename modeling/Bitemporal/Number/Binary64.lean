/-!
# Double precision numbers

Every finite double is a whole number of units of 2⁻¹⁰⁷⁴, so a double is kept as its sign and
that number. Arithmetic is exact arithmetic on units followed by one rounding to the nearest
double, ties to the even significand; a result beyond the largest double is infinite. Order is the
order of the numbers, in which both zeros are equal and nothing compares to the undefined number.
-/

namespace Bitemporal

namespace Binary64

/-- The distance, in units, between neighbouring doubles in the binade of a magnitude. -/
def grain (units : Nat) : Nat := Nat.pow 2 (units.log2 - 52)

def unitBits : Nat := 1074

def unitsPerOne : Nat := Nat.pow 2 unitBits

def limitBits : Nat := 2098

/-- The first magnitude, in units, that is too large for a double. -/
def limit : Nat := Nat.pow 2 limitBits

/-- Magnitudes with at most 53 significant bits below the limit. -/
def Representable (units : Nat) : Prop := units < limit ∧ units % grain units = 0

instance (units : Nat) : Decidable (Representable units) :=
  inferInstanceAs (Decidable (units < limit ∧ units % grain units = 0))

end Binary64

inductive Binary64 where
  | nan
  | infinite (negative : Bool)
  | finite (negative : Bool) (units : Nat) (fits : Binary64.Representable units)
  deriving DecidableEq

namespace Binary64

/-- The double of a magnitude that is already rounded, infinite past the limit. -/
def ofRounded (negative : Bool) (units : Nat) : Binary64 :=
  if h : Representable units then .finite negative units h else .infinite negative

/-- The whole number nearest to a quotient, ties to even. -/
def nearest (num den : Nat) : Nat :=
  let q := num / den
  let r := num % den
  if den < 2 * r ∨ (2 * r = den ∧ q % 2 = 1) then q + 1 else q

def ofUnits (negative : Bool) (num den : Nat) : Binary64 :=
  let g := grain (num / den)
  ofRounded negative (nearest num (den * g) * g)

def zero : Binary64 := ofRounded false 0

def one : Binary64 := ofRounded false unitsPerOne

def bounded? : Binary64 → Option Binary64
  | infinite _ => none
  | x => some x

def ofInt? (n : Int) : Option Binary64 :=
  (ofUnits (n < 0) (n.natAbs * unitsPerOne) 1).bounded?

def neg : Binary64 → Binary64
  | nan => nan
  | infinite s => infinite (!s)
  | finite s u h => finite (!s) u h

def signedUnits (negative : Bool) (units : Nat) : Int := if negative then -(units : Int) else units

def add : Binary64 → Binary64 → Binary64
  | nan, _ => nan
  | _, nan => nan
  | infinite s, infinite t => if s = t then infinite s else nan
  | infinite s, finite .. => infinite s
  | finite .., infinite t => infinite t
  | finite s a _, finite t b _ =>
    let sum := signedUnits s a + signedUnits t b
    if sum = 0 then ofRounded (s && t) 0 else ofUnits (sum < 0) sum.natAbs 1

def mul : Binary64 → Binary64 → Binary64
  | nan, _ => nan
  | _, nan => nan
  | infinite s, infinite t => infinite (s != t)
  | infinite s, finite t b _ => if b = 0 then nan else infinite (s != t)
  | finite s a _, infinite t => if a = 0 then nan else infinite (s != t)
  | finite s a _, finite t b _ => ofUnits (s != t) (a * b) unitsPerOne

instance : Add Binary64 := ⟨add⟩
instance : Mul Binary64 := ⟨mul⟩
instance : Neg Binary64 := ⟨neg⟩
instance : Zero Binary64 := ⟨zero⟩
instance : One Binary64 := ⟨one⟩
instance : Inhabited Binary64 := ⟨zero⟩

/-- The place of a number on the line of units, with infinity at the limit. -/
def rank? : Binary64 → Option Int
  | nan => none
  | infinite s => some (signedUnits s limit)
  | finite s u _ => some (signedUnits s u)

def lt (x y : Binary64) : Bool :=
  match x.rank?, y.rank? with
  | some a, some b => a < b
  | _, _ => false

def le (x y : Binary64) : Bool :=
  match x.rank?, y.rank? with
  | some a, some b => a ≤ b
  | _, _ => false

/-- Equality as numbers: both zeros are equal, and the undefined number equals nothing. -/
def eqv (x y : Binary64) : Bool :=
  match x.rank?, y.rank? with
  | some a, some b => a = b
  | _, _ => false

/-- The integer part of a finite number, toward zero. -/
def truncate? : Binary64 → Option Int
  | finite s u _ => some (signedUnits s (u / unitsPerOne))
  | _ => none

def toInt? : Binary64 → Option Int
  | finite s u _ => if u % unitsPerOne = 0 then some (signedUnits s (u / unitsPerOne)) else none
  | _ => none

end Binary64

end Bitemporal
