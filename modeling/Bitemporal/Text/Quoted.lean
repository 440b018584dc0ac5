import Bitemporal.Text.Halves
import Bitemporal.Text.Hex
import Bitemporal.Text.Printable

/-!
# Quoted text

Texts and byte strings as they appear inside messages: between single quotes, or between double
quotes when that saves an escape, with unprintable characters as numbered escapes.
-/

namespace Bitemporal.Text

/-- The quote that surrounds a text: double only if the text holds a single quote and no double
one. -/
def quoteFor (hasSingle hasDouble : Bool) : Char :=
  if hasSingle && !hasDouble then '"' else '\''

/-- A code point as the shortest numbered escape that can hold it. -/
def numberedEscape (code : Nat) : List Char :=
  if code < 0x100 then '\\' :: 'x' :: hexDigits 2 code
  else if code < 0x10000 then '\\' :: 'u' :: hexDigits 4 code
  else '\\' :: 'U' :: hexDigits 8 code

def quotedChar (quote c : Char) : List Char :=
  if c = quote ∨ c = '\\' then ['\\', c]
  else if c = '\n' then ['\\', 'n']
  else if c = '\r' then ['\\', 'r']
  else if c = '\t' then ['\\', 't']
  else if isPrintable c then [c]
  else numberedEscape c.toNat

/-- One point of a quoted text; half of a pair is never printable. -/
def quotedPoint (quote : Char) (p : Point) : List Char :=
  match p with
  | .char c => quotedChar quote c
  | .half _ => numberedEscape p.code

def quoted (s : String) : String :=
  let cs := s.toList
  let quote := quoteFor (cs.contains '\'') (cs.contains '"')
  String.ofList (quote :: (points cs).flatMap (quotedPoint quote) ++ [quote])

/-- One byte of a quoted byte string: bytes outside printable ASCII are numbered escapes. -/
def quotedByte (quote : Char) (byte : UInt8) : List Char :=
  let c := Char.ofNat byte.toNat
  if 0x20 ≤ byte ∧ byte < 0x7f then if c = quote ∨ c = '\\' then ['\\', c] else [c]
  else if c = '\n' then ['\\', 'n']
  else if c = '\r' then ['\\', 'r']
  else if c = '\t' then ['\\', 't']
  else numberedEscape byte.toNat

def quotedBytes (bytes : List UInt8) : String :=
  let quote := quoteFor (bytes.contains 0x27) (bytes.contains 0x22)
  String.ofList ('b' :: quote :: bytes.flatMap (quotedByte quote) ++ [quote])

end Bitemporal.Text
