import Bitemporal.Text.Digit

/-!
# Integer numerals

Integers are written in ASCII digits without leading zeros. They are read more freely: digits of
any script, a single underscore between two digits, either sign, and blanks at both ends. A
numeral of more than 4300 digits is refused.
-/

namespace Bitemporal.Numeral

def digitChar (n : Nat) : Char := Char.ofNat (48 + n)

def digitsOnto (n : Nat) (rest : List Char) : List Char :=
  if n < 10 then digitChar n :: rest else digitsOnto (n / 10) (digitChar (n % 10) :: rest)
termination_by n
decreasing_by omega

def natDigits (n : Nat) : List Char := digitsOnto n []

def intDigits (n : Int) : List Char :=
  if n < 0 then '-' :: natDigits n.natAbs else natDigits n.natAbs

def ofNat (n : Nat) : String := String.ofList (natDigits n)

def ofInt (n : Int) : String := String.ofList (intDigits n)

def padded : Nat → Nat → List Char
  | 0, _ => []
  | width + 1, n => padded width (n / 10) ++ [digitChar (n % 10)]

def ofDigits (digits : List Nat) : Nat := digits.foldl (fun n d => 10 * n + d) 0

/-- The digit values of a numeral in which single underscores may separate digits. -/
def groupedDigits? : List Char → Option (List Nat)
  | [] => none
  | [c] => (Text.digitValue? c).map fun d => [d]
  | c :: '_' :: rest => do
    let d ← Text.digitValue? c
    let ds ← groupedDigits? rest
    return d :: ds
  | c :: rest => do
    let d ← Text.digitValue? c
    let ds ← groupedDigits? rest
    return d :: ds

def maxDigits : Nat := 4300

def isWritable (n : Int) : Bool := (natDigits n.natAbs).length ≤ maxDigits

def readNat? (cs : List Char) : Option Nat := do
  let digits ← groupedDigits? cs
  if digits.length ≤ maxDigits then some (ofDigits digits) else none

/-- Blanks that may surround a numeral: all but the information separators. -/
def isMargin (c : Char) : Bool := Text.isBlank c && !Text.inRanges [(0x1c, 0x1f)] c.toNat

def trimMargins (cs : List Char) : List Char :=
  ((cs.dropWhile isMargin).reverse.dropWhile isMargin).reverse

def readInt? (cs : List Char) : Option Int :=
  match trimMargins cs with
  | '-' :: rest => (readNat? rest).map fun n => -(n : Int)
  | '+' :: rest => (readNat? rest).map fun n => (n : Int)
  | rest => (readNat? rest).map fun n => (n : Int)

end Bitemporal.Numeral
