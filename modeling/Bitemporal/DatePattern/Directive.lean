import Bitemporal.Calendar.Names
import Bitemporal.Text.Digit
import Bitemporal.Text.LetterCase

/-!
# Directives of a date pattern, as they are read

A pattern for reading is a sequence of literal characters, blanks and directives. A directive
stands for one part of a date-time and lists the forms of that part in order of preference; a form
is a sequence of character classes.
-/

namespace Bitemporal.DatePattern

inductive Directive where
  | day
  | microsecond
  | hour24
  | hour12
  | isoYear
  | dayOfYear
  | month
  | minute
  | second
  | weekFromSunday
  | weekFromMonday
  | weekdayFromSunday
  | weekdayFromMonday
  | isoWeek
  | shortYear
  | year
  | offset
  | weekdayName
  | weekdayAbbreviation
  | monthName
  | monthAbbreviation
  | halfDay
  | zone
  deriving DecidableEq

inductive CharClass where
  /-- A decimal digit of any script. -/
  | digit
  /-- A character between two others. -/
  | between (low high : Char)
  /-- A letter in either case. -/
  | letter (c : Char)
  /-- One character only. -/
  | only (c : Char)

def CharClass.admits : CharClass → Char → Bool
  | digit, c => Text.isDecimalDigit c
  | between low high, c => low ≤ c && c ≤ high
  | letter l, c => Text.sameLetter l c
  | only x, c => x == c

/-- The classes of the characters of a word, in either case. -/
def word (name : List Char) : List CharClass := name.map .letter

/-- One to six characters of a class, the longest first. -/
def upToSix (c : CharClass) : List (List CharClass) := [6, 5, 4, 3, 2, 1].map (List.replicate · c)

def sixty : CharClass := .between '0' '5'

/-- Forms of an offset: a sign, hours and minutes, then perhaps seconds, then perhaps a fraction,
with colons that may be left out; or the letter Z. -/
def offsetForms : List (List CharClass) :=
  let colon : List (List CharClass) := [[.only ':'], []]
  let fractions := ((upToSix .digit).map (.only '.' :: ·)) ++ [[]]
  let seconds := colon.flatMap fun c => fractions.map fun f => c ++ [sixty, .digit] ++ f
  let clock := colon.flatMap fun c => (seconds ++ [[]]).map fun s => c ++ [sixty, .digit] ++ s
  -- The sign varies slowest, which does not matter since a text starts with one sign only.
  (['+', '-'].flatMap fun sign => clock.map (.only sign :: .digit :: .digit :: ·)) ++ [[.only 'Z']]

/-- The forms of a part, in order of preference. -/
def Directive.forms : Directive → List (List CharClass)
  | day => [[.only '3', .between '0' '1'], [.between '1' '2', .digit],
      [.only '0', .between '1' '9'], [.between '1' '9'], [.only ' ', .between '1' '9']]
  | microsecond => upToSix (.between '0' '9')
  | hour24 => [[.only '2', .between '0' '3'], [.between '0' '1', .digit], [.digit]]
  | hour12 | month =>
    [[.only '1', .between '0' '2'], [.only '0', .between '1' '9'], [.between '1' '9']]
  | isoYear | year => [[.digit, .digit, .digit, .digit]]
  | dayOfYear => [[.only '3', .only '6', .between '0' '6'], [.only '3', .between '0' '5', .digit],
      [.between '1' '2', .digit, .digit], [.only '0', .between '1' '9', .digit],
      [.only '0', .only '0', .between '1' '9'], [.between '1' '9', .digit],
      [.only '0', .between '1' '9'], [.between '1' '9']]
  | minute => [[sixty, .digit], [.digit]]
  | second => [[.only '6', .between '0' '1'], [sixty, .digit], [.digit]]
  | weekFromSunday | weekFromMonday =>
    [[.only '5', .between '0' '3'], [.between '0' '4', .digit], [.digit]]
  | weekdayFromSunday => [[.between '0' '6']]
  | weekdayFromMonday => [[.between '1' '7']]
  | isoWeek => [[.only '5', .between '0' '3'], [.only '0', .between '1' '9'],
      [.between '1' '4', .digit], [.digit]]
  | shortYear => [[.digit, .digit]]
  | offset => offsetForms
  | weekdayName => Calendar.weekdayNames.map word
  | weekdayAbbreviation => Calendar.weekdayNames.map (word ∘ Calendar.abbreviated)
  | monthName => Calendar.monthNames.map word
  | monthAbbreviation => Calendar.monthNames.map (word ∘ Calendar.abbreviated)
  | halfDay => Calendar.halfDayNames.map word
  | zone => [word ['u', 't', 'c'], word ['g', 'm', 't']]

inductive Item where
  /-- A character, in either case. -/
  | literal (c : Char)
  /-- One or more blanks. -/
  | blanks
  | part (d : Directive)

def Item.directive? : Item → Option Directive
  | part d => some d
  | _ => none

def dateItems : List Item :=
  [.part .month, .literal '/', .part .day, .literal '/', .part .shortYear]

def timeItems : List Item :=
  [.part .hour24, .literal ':', .part .minute, .literal ':', .part .second]

def itemsOfLetter? : Char → Option (List Item)
  | 'd' => some [.part .day]
  | 'f' => some [.part .microsecond]
  | 'H' => some [.part .hour24]
  | 'I' => some [.part .hour12]
  | 'G' => some [.part .isoYear]
  | 'j' => some [.part .dayOfYear]
  | 'm' => some [.part .month]
  | 'M' => some [.part .minute]
  | 'S' => some [.part .second]
  | 'U' => some [.part .weekFromSunday]
  | 'W' => some [.part .weekFromMonday]
  | 'w' => some [.part .weekdayFromSunday]
  | 'u' => some [.part .weekdayFromMonday]
  | 'V' => some [.part .isoWeek]
  | 'y' => some [.part .shortYear]
  | 'Y' => some [.part .year]
  | 'z' => some [.part .offset]
  | 'A' => some [.part .weekdayName]
  | 'a' => some [.part .weekdayAbbreviation]
  | 'B' => some [.part .monthName]
  | 'b' => some [.part .monthAbbreviation]
  | 'p' => some [.part .halfDay]
  | 'Z' => some [.part .zone]
  | 'x' => some dateItems
  | 'X' => some timeItems
  | 'c' => some ([.part .weekdayAbbreviation, .blanks, .part .monthAbbreviation, .blanks,
      .part .day, .blanks] ++ timeItems ++ [.blanks, .part .year])
  | '%' => some [.literal '%']
  | _ => none

/-- The steps of a pattern. A percent sign needs a known character after it; a run of blanks is
one step. -/
def items? : List Char → Option (List Item)
  | [] => some []
  | ['%'] => none
  | '%' :: c :: rest => do return (← itemsOfLetter? c) ++ (← items? rest)
  | c :: rest => do
    let tail ← items? rest
    if Text.isBlank c then
      match tail with
      | .blanks :: _ => return tail
      | _ => return .blanks :: tail
    else return .literal c :: tail

end Bitemporal.DatePattern
