import Bitemporal.Yaml.Cursor

/-!
# YAML tokens

The pieces that a YAML text is cut into. Indentation appears as tokens that open and close
collections, and each implicit key is announced by a token in front of it.
-/

namespace Bitemporal.Yaml

inductive Directive where
  | version (major : Nat)
  | tagHandle (name target : String)
  | other

inductive Token where
  | directive (d : Directive)
  | documentStart
  | documentEnd
  /-- An indented sequence starts. -/
  | sequenceStart
  /-- An indented mapping starts. -/
  | mappingStart
  /-- An indented collection ends. -/
  | blockEnd
  | bracketOpen
  | bracketClose
  | braceOpen
  | braceClose
  | dash
  | comma
  | key
  | value
  | reference (name : String)
  | anchor (name : String)
  | tag (handle : Option String) (suffix : String)
  | scalar (text : String) (isPlain : Bool)

namespace Cursor

/-- Blanks, line breaks and the end of the text, but no tabs. -/
def isStop (c : Option Char) : Bool := isGap c && c ≠ some '\t'

def isNameChar (c : Char) : Bool :=
  c.isAlphanum || c = '-' || c = '_'

def name? (k : Cursor) : Option (String × Cursor) :=
  match k.takeWhile isNameChar with
  | ([], _) => none
  | (cs, k) => some (String.ofList cs, k)

def anchorName? (k : Cursor) : Option (String × Cursor) := do
  let (name, k) ← k.step.name?
  let ends (c : Char) : Bool := ['?', ':', ',', ']', '\x7d', '%', '@', '\x60'].contains c
  if isGap k.peek? || k.peek?.any ends then some (name, k) else none

/-! ## Tags -/

def isUriChar (c : Char) : Bool :=
  c.isAlphanum || "-;/?:@&=+$,_.!~*'()[]".toList.contains c

def escapedBytes? : List Char → Option (List UInt8)
  | '%' :: a :: b :: rest => do
    let code ← Text.hexNumber? [a, b]
    let codes ← escapedBytes? rest
    return code.toUInt8 :: codes
  | '%' :: _ => none
  | _ => some []

def uriChars? : Nat → Cursor → Option (List Char × Cursor)
  | 0, k => some ([], k)
  | fuel + 1, k =>
    match k.peek? with
    | none => some ([], k)
    | some c =>
      if c = '%' then do
        let bytes ← escapedBytes? k.rest
        let text ← String.fromUTF8? bytes.toByteArray
        let (more, k) ← uriChars? fuel (k.steps (3 * bytes.length))
        return (text.toList ++ more, k)
      else if isUriChar c then (uriChars? fuel k.step).map fun (more, k) => (c :: more, k)
      else some ([], k)

def uri? (k : Cursor) : Option (String × Cursor) :=
  match uriChars? (k.rest.length + 1) k with
  | some ([], _) | none => none
  | some (cs, k) => some (String.ofList cs, k)

/-- The handle of a tag: an exclamation mark, or two of them around a name. -/
def tagHandle? (k : Cursor) : Option (String × Cursor) :=
  match k.rest with
  | '!' :: rest =>
    if rest.head? = some ' ' then some ("!", k.step)
    else
      let name := rest.takeWhile isNameChar
      if (rest.drop name.length).head? = some '!' then
        some (String.ofList ('!' :: name ++ ['!']), k.steps (name.length + 2))
      else none
  | _ => none

def tag? (k : Cursor) : Option ((Option String × String) × Cursor) := do
  let (tag, k) ←
    if k.at? 1 = some '<' then do
      let (suffix, k) ← (k.steps 2).uri?
      if k.peek? = some '>' then some ((none, suffix), k.step) else none
    else if isGap (k.at? 1) then some ((none, "!"), k.step)
    else do
      let word := k.step.rest.takeWhile fun c => !isStop (some c)
      let (handle, k) ← if word.contains '!' then k.tagHandle? else some ("!", k.step)
      let (suffix, k) ← k.uri?
      some ((some handle, suffix), k)
  if isStop k.peek? then some (tag, k) else none

/-! ## Directives -/

def number (k : Cursor) : Except Fault (Nat × Cursor) :=
  match k.takeWhile Char.isDigit with
  | ([], _) => .error .malformed
  | (cs, k) =>
    match Numeral.readNat? cs with
    | some n => .ok (n, k)
    | none => .error .unreadable

def version (k : Cursor) : Except Fault (Directive × Cursor) := do
  let (major, k) ← k.skipBlanks.number
  if k.peek? ≠ some '.' then throw .malformed
  let (_, k) ← k.step.number
  if isStop k.peek? then return (.version major, k) else throw .malformed

def handleTarget? (k : Cursor) : Option (Directive × Cursor) := do
  let (handle, k) ← k.skipBlanks.tagHandle?
  if k.peek? ≠ some ' ' then none
  else
    let (target, k) ← k.skipBlanks.uri?
    if isStop k.peek? then some (.tagHandle handle target, k) else none

def directive (k : Cursor) : Except Fault (Directive × Cursor) := do
  let (name, k) ← orMalformed k.name?
  if !isStop k.peek? then throw .malformed
  let (d, k) ←
    if name = "YAML" then k.version
    else if name = "TAG" then orMalformed k.handleTarget?
    else .ok (.other, k.skipWhile fun c => !isBreak c)
  let k := k.skipBlanks
  let k := if k.peek? = some '#' then k.skipWhile fun c => !isBreak c else k
  match k.lineBreak?, k.peek? with
  | some (_, k), _ => return (d, k)
  | none, none => return (d, k)
  | none, some _ => throw .malformed

end Cursor

end Bitemporal.Yaml
