import Bitemporal.Calendar.DateTime
import Bitemporal.Calendar.Names
import Bitemporal.Text.LetterCase

/-!
# Writing a date-time by a pattern

A date-time in universal time is written in two passes. The first replaces the offset, the zone
and the microseconds where they follow a percent sign directly. The second expands all other
directives, each with its optional flags, width and modifier. A directive that does not exist is
copied. A text that would outgrow its room is not written at all: the room is the first of 1024,
2048, 4096, … characters that is at least 256 times as long as the pattern.
-/

namespace Bitemporal.DatePattern

/-! ## First pass -/

def upToNull (cs : List Char) : List Char := cs.takeWhile (· ≠ '\x00')

def replaceFixed (t : DateTime) : List Char → List Char
  | '%' :: 'z' :: rest => "+0000".toList ++ replaceFixed t rest
  | '%' :: 'Z' :: rest => "UTC".toList ++ replaceFixed t rest
  | '%' :: 'f' :: rest => Numeral.padded 6 t.time.micro ++ replaceFixed t rest
  | '%' :: c :: rest => '%' :: c :: replaceFixed t rest
  | c :: rest => c :: replaceFixed t rest
  | [] => []

/-! ## Second pass: one directive -/

inductive Padding where
  | zeros
  | blanks
  | nothing
  deriving DecidableEq

/-- What stands between a percent sign and the letter of a directive. -/
structure Options where
  padding : Option Padding := none
  upper : Bool := false
  swap : Bool := false
  width : Option Nat := none
  modifier : Option Char := none

/-- The largest width; a larger one counts as this. -/
def widthLimit : Nat := 2147483647

def readFlags (o : Options) : List Char → Options × List Char
  | '_' :: rest => readFlags { o with padding := some .blanks } rest
  | '-' :: rest => readFlags { o with padding := some .nothing } rest
  | '0' :: rest => readFlags { o with padding := some .zeros } rest
  | '^' :: rest => readFlags { o with upper := true } rest
  | '#' :: rest => readFlags { o with swap := true } rest
  | rest => (o, rest)

def readWidth (o : Options) (cs : List Char) : Options × List Char :=
  match cs.takeWhile Char.isDigit with
  | [] => (o, cs)
  | ds =>
    let width := Numeral.ofDigits (ds.map fun c => c.toNat - 48)
    ({ o with width := some (min width widthLimit) }, cs.dropWhile Char.isDigit)

def readModifier (o : Options) : List Char → Options × List Char
  | 'E' :: rest => ({ o with modifier := some 'E' }, rest)
  | 'O' :: rest => ({ o with modifier := some 'O' }, rest)
  | rest => (o, rest)

def readOptions (cs : List Char) : Options × List Char :=
  let (o, cs) := readFlags {} cs
  let (o, cs) := readWidth o cs
  readModifier o cs

def refuses (letter : Char) (modifier : Option Char) : Bool :=
  match modifier with
  | none => false
  | some m =>
    if ['a', 'A', 'D', 'F', '%'].contains letter then true
    else if m = 'E' then
      ['b', 'B', 'h', 'd', 'e', 'H', 'I', 'j', 'k', 'l', 'm', 'M', 'S', 'U', 'V', 'g', 'G', 'W',
        'w'].contains letter
    else ['c', 'x', 'X', 'Y'].contains letter

/-- The year and week of the numbered week that a date lies in: those of its Thursday. -/
def isoYearWeek (d : Date) : Nat × Nat :=
  let thursday : Int := d.dayOfYear - d.weekday + 3
  if thursday < 0 then
    (d.year - 1, ((thursday + Calendar.daysInYear (d.year - 1)) / 7 + 1).toNat)
  else if Calendar.daysInYear d.year ≤ thursday then
    (d.year + 1, ((thursday - Calendar.daysInYear d.year) / 7 + 1).toNat)
  else (d.year, (thursday / 7 + 1).toNat)

def clockHour (hour : Nat) : Nat := if hour % 12 = 0 then 12 else hour % 12

/-- A number with a least count of digits, filled with zeros or with blanks. -/
structure Quantity where
  places : Nat
  blankFilled : Bool
  value : Nat

def quantity? (t : DateTime) : Char → Option Quantity
  | 'C' => some ⟨1, false, t.date.year / 100⟩
  | 'd' => some ⟨2, false, t.date.day⟩
  | 'e' => some ⟨2, true, t.date.day⟩
  | 'g' => some ⟨2, false, (isoYearWeek t.date).1 % 100⟩
  | 'G' => some ⟨1, false, (isoYearWeek t.date).1⟩
  | 'H' => some ⟨2, false, t.time.hour⟩
  | 'I' => some ⟨2, false, clockHour t.time.hour⟩
  | 'j' => some ⟨3, false, t.date.dayOfYear + 1⟩
  | 'k' => some ⟨2, true, t.time.hour⟩
  | 'l' => some ⟨2, true, clockHour t.time.hour⟩
  | 'm' => some ⟨2, false, t.date.month⟩
  | 'M' => some ⟨2, false, t.time.minute⟩
  | 'S' => some ⟨2, false, t.time.second⟩
  | 'u' => some ⟨1, false, t.date.weekday + 1⟩
  | 'U' => some ⟨2, false, (t.date.dayOfYear + 7 - (t.date.weekday + 1) % 7) / 7⟩
  | 'V' => some ⟨2, false, (isoYearWeek t.date).2⟩
  | 'w' => some ⟨1, false, (t.date.weekday + 1) % 7⟩
  | 'W' => some ⟨2, false, (t.date.dayOfYear + 7 - t.date.weekday) / 7⟩
  | 'y' => some ⟨2, false, t.date.year % 100⟩
  | 'Y' => some ⟨1, false, t.date.year⟩
  | _ => none

def name? (t : DateTime) (letter : Char) : Option (List Char) :=
  let weekday := Calendar.weekdayNames.getD t.date.weekday []
  let month := Calendar.monthNames.getD (t.date.month - 1) []
  match letter with
  | 'a' => some (Calendar.abbreviated weekday)
  | 'A' => some weekday
  | 'b' | 'h' => some (Calendar.abbreviated month)
  | 'B' => some month
  | _ => none

def epochSeconds (t : DateTime) : Int := t.micros.fdiv 1000000

def Quantity.text (q : Quantity) : List Char :=
  let digits := Numeral.natDigits q.value
  List.replicate (q.places - digits.length) (if q.blankFilled then ' ' else '0') ++ digits

def halfDay (t : DateTime) : List Char :=
  Calendar.halfDayNames.getD (if t.time.hour < 12 then 0 else 1) []

/-- Directives that stand for several others, which they spell out; other characters stand for
themselves. -/
def compound? : Char → Option (List Char)
  | 'c' => some "%a %b %e %H:%M:%S %Y".toList
  | 'D' | 'x' => some "%m/%d/%y".toList
  | 'F' => some "%Y-%m-%d".toList
  | 'r' => some "%I:%M:%S %p".toList
  | 'R' => some "%H:%M".toList
  | 'T' | 'X' => some "%H:%M:%S".toList
  | _ => none

def plainText (t : DateTime) (letter : Char) : List Char :=
  match quantity? t letter with
  | some q => q.text
  | none => (name? t letter).getD (halfDay t)

def compoundText (t : DateTime) : List Char → List Char
  | '%' :: letter :: rest => plainText t letter ++ compoundText t rest
  | c :: rest => c :: compoundText t rest
  | [] => []

/-- A piece of output: a text after a number of fill characters. The count is kept apart because
a width may be far larger than the room for the text. -/
structure Piece where
  fill : Char
  count : Nat
  text : List Char

def Piece.length (p : Piece) : Nat := p.count + p.text.length

def Piece.chars (p : Piece) : List Char := List.replicate p.count p.fill ++ p.text

def Options.field (o : Options) (text : List Char) : Piece :=
  ⟨if o.padding = some .zeros then '0' else ' ', o.width.getD 0 - text.length, text⟩

def Options.number (o : Options) (q : Quantity) : Piece :=
  let digits := Numeral.natDigits q.value
  let places := max q.places (o.width.getD 0)
  match o.padding.getD (if q.blankFilled then .blanks else .zeros) with
  | .zeros => ⟨'0', places - digits.length, digits⟩
  | .blanks => ⟨' ', places - digits.length, digits⟩
  | .nothing => ⟨' ', o.width.getD 0 - digits.length, digits⟩

def upperCase (cs : List Char) : List Char := cs.map Text.capital

def lowerCase (cs : List Char) : List Char := cs.map Char.toLower

/-- The text of a directive that is none: from the last percent sign to the letter. -/
def Options.copied (o : Options) (source : List Char) : Piece :=
  o.field (if o.upper then upperCase source else source)

/-- What a directive writes. `source` is its own text, from the last percent sign on. -/
def directive (t : DateTime) (o : Options) (letter : Char) (source : List Char) : List Piece :=
  if refuses letter o.modifier then
    [(if o.swap && (letter = 'b' || letter = 'h') then { o with upper := true } else o).copied
      source]
  else
    match quantity? t letter, name? t letter, compound? letter with
    | some q, _, _ => [o.number q]
    | none, some name, _ => [o.field (if o.upper || o.swap then upperCase name else name)]
    | none, none, some pattern =>
      let text := compoundText t pattern
      [o.field (if o.upper then upperCase text else text)]
    | none, none, none =>
      match letter with
      | '%' => [o.field ['%']]
      | 'n' => [o.field ['\n']]
      | 't' => [o.field ['\t']]
      | 's' => [o.field (Numeral.intDigits (epochSeconds t))]
      | 'p' => [o.field (if o.swap then lowerCase (halfDay t) else halfDay t)]
      | 'P' => [o.field (lowerCase (halfDay t))]
      | 'Z' => [o.field []]
      | 'z' => []
      | _ => [o.copied source]

theorem length_readFlags (o : Options) (cs : List Char) :
    (readFlags o cs).2.length ≤ cs.length := by
  fun_induction readFlags o cs <;> simp_all <;> omega

theorem length_readWidth (o : Options) (cs : List Char) :
    (readWidth o cs).2.length ≤ cs.length := by
  unfold readWidth
  split
  · exact Nat.le_refl _
  · exact (List.dropWhile_sublist _).length_le

theorem length_readModifier (o : Options) (cs : List Char) :
    (readModifier o cs).2.length ≤ cs.length := by
  unfold readModifier
  split <;> simp

theorem length_readOptions (cs : List Char) : (readOptions cs).2.length ≤ cs.length :=
  Nat.le_trans (length_readModifier ..) (Nat.le_trans (length_readWidth ..) (length_readFlags ..))

def pieces (t : DateTime) : List Char → List Piece
  | [] => []
  | '%' :: cs =>
    match h : readOptions cs with
    | (o, []) => [o.copied ('%' :: cs)]
    | (o, letter :: rest) =>
      let source := if letter = '%' then ['%'] else '%' :: cs.take (cs.length - rest.length)
      have : rest.length < cs.length + 1 := by
        have := length_readOptions cs
        rw [h] at this
        simp only [List.length_cons] at this
        omega
      directive t o letter source ++ pieces t rest
  | c :: cs => ⟨' ', 0, [c]⟩ :: pieces t cs
termination_by cs => cs.length

/-! ## The whole -/

/-- The first doubling of 1024 that is at least a given number. -/
def room (least : Nat) : Nat :=
  if least ≤ 1024 then 1024 else 1024 * Nat.pow 2 (((least - 1) / 1024).log2 + 1)

/-- The text of a date-time by a pattern, or the empty text if it does not fit. -/
def write (t : DateTime) (pattern : List Char) : List Char :=
  let fixed := replaceFixed t (upToNull pattern)
  let out := pieces t fixed
  let size := (out.map Piece.length).foldr (· + ·) 0
  if size < room (256 * fixed.length) then out.flatMap Piece.chars else []

end Bitemporal.DatePattern
