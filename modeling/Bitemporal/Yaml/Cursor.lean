import Bitemporal.Number.Numeral
import Bitemporal.Text.Blank
import Bitemporal.Text.Halves
import Bitemporal.Text.Hex
import Bitemporal.Yaml.Fault

/-!
# Positions in a YAML text

A cursor is the text that is left together with the place it starts at. The readers here
take the runs of characters that scalars are made of; those that can fail in only one way return
nothing.
-/

namespace Bitemporal.Yaml

structure Cursor where
  rest : List Char
  /-- How many characters stand in front. -/
  offset : Nat
  line : Nat
  column : Nat

def isBreak (c : Char) : Bool :=
  c = '\n' || c = '\r' || c = '\x85' || c = '\u2028' || c = '\u2029'

def byteOrderMark : Char := '\ufeff'

def isGap : Option Char → Bool
  | none => true
  | some c => c = ' ' || c = '\t' || isBreak c

def isAllowed (c : Char) : Bool :=
  Text.inRanges [(0x9, 0xa), (0xd, 0xd), (0x20, 0x7e), (0x85, 0x85), (0xa0, 0xd7ff),
    (0xe000, 0xfffd), (0x10000, 0x10ffff)] c.toNat

namespace Cursor

def ofText (cs : List Char) : Cursor := ⟨cs, 0, 0, 0⟩

def at? (k : Cursor) (n : Nat) : Option Char := k.rest[n]?

def peek? (k : Cursor) : Option Char := k.rest.head?

/-- Passes one character. A byte order mark takes no column. -/
def step (k : Cursor) : Cursor :=
  match k.rest with
  | [] => k
  | c :: rest =>
    if isBreak c then ⟨rest, k.offset + 1, k.line + 1, 0⟩
    else ⟨rest, k.offset + 1, k.line, if c = byteOrderMark then k.column else k.column + 1⟩

def steps (k : Cursor) : Nat → Cursor
  | 0 => k
  | n + 1 => k.step.steps n

def takeWhile (k : Cursor) (p : Char → Bool) : List Char × Cursor :=
  let front := k.rest.takeWhile p
  (front, k.steps front.length)

def skipWhile (k : Cursor) (p : Char → Bool) : Cursor := (k.takeWhile p).2

def skipBlanks (k : Cursor) : Cursor := k.skipWhile (· = ' ')

/-- Passes a line break, if there is one, and tells what it counts as. -/
def lineBreak? (k : Cursor) : Option (Char × Cursor) :=
  match k.rest with
  | '\r' :: '\n' :: rest => some ('\n', ⟨rest, k.offset + 2, k.line + 1, 0⟩)
  | c :: rest =>
    if isBreak c then
      let shown := if c = '\u2028' || c = '\u2029' then c else '\n'
      some (shown, ⟨rest, k.offset + 1, k.line + 1, 0⟩)
    else none
  | [] => none

def atSeparator (k : Cursor) (mark : Char) : Bool :=
  k.rest.take 3 = [mark, mark, mark] && isGap (k.at? 3)

def atAnySeparator (k : Cursor) : Bool := k.atSeparator '-' || k.atSeparator '.'

def passBreaks (between : Char → Bool) : Nat → Cursor → List Char × Cursor
  | 0, k => ([], k)
  | fuel + 1, k =>
    let k := k.skipWhile between
    match k.lineBreak? with
    | none => ([], k)
    | some (c, k) =>
      let (more, k) := passBreaks between fuel k
      (c :: more, k)

/-- A line break and the breaks after it as they count inside a folded scalar: a single one is a
blank. -/
def folded (first : Char) (more : List Char) : List Char :=
  if first ≠ '\n' then first :: more else if more.isEmpty then [' '] else more

/-! ## Plain scalars -/

def endsPlain (inFlow : Bool) (c : Char) (next : Option Char) : Bool :=
  isGap (some c) ||
    (c = ':' && (isGap next || (inFlow && (next.any fun d => [',', '[', ']', '\x7b', '\x7d'].contains d)))) ||
    (inFlow && [',', '?', '[', ']', '\x7b', '\x7d'].contains c)

def plainWord (inFlow : Bool) : List Char → List Char
  | [] => []
  | c :: rest => if endsPlain inFlow c rest.head? then [] else c :: plainWord inFlow rest

/-- Passes the breaks after a line break inside a plain scalar. Nothing is returned at a document
separator. -/
def plainBreaks? : Nat → Cursor → Option (List Char × Cursor)
  | 0, k => some ([], k)
  | fuel + 1, k =>
    if k.atAnySeparator then none
    else
      let k := k.skipBlanks
      match k.lineBreak? with
      | none => some ([], k)
      | some (c, k) => (plainBreaks? fuel k).map fun (more, k) => (c :: more, k)

/-- A plain scalar. `indent` is the least column of a further line, and `broken` tells whether a
line break was passed. -/
def plain (inFlow : Bool) (indent : Int) : Nat → Cursor → Bool → List Char × Cursor × Bool
  | 0, k, broken => ([], k, broken)
  | fuel + 1, k, broken =>
    match (if k.peek? = some '#' then [] else plainWord inFlow k.rest) with
    | [] => ([], k, broken)
    | word =>
      let k := k.steps word.length
      let (blanks, k') := k.takeWhile (· = ' ')
      match k'.lineBreak? with
      | none =>
        if blanks.isEmpty || k'.peek? = some '#' then (word, k', false)
        else
          let (more, k, broken) := plain inFlow indent fuel k' false
          (if more.isEmpty then word else word ++ blanks ++ more, k, broken)
      | some (first, k') =>
        match plainBreaks? (k'.rest.length + 1) k' with
        | none => (word, k', true)
        | some (breaks, k') =>
          if k'.peek? = some '#' || (!inFlow && (k'.column : Int) < indent) then (word, k', true)
          else
            let (more, k, broken) := plain inFlow indent fuel k' true
            (if more.isEmpty then word else word ++ folded first breaks ++ more, k, broken)

/-! ## Quoted scalars -/

def escapes : List (Char × Char) := [
  ('0', '\x00'), ('a', '\x07'), ('b', '\x08'), ('t', '\t'), ('\t', '\t'), ('n', '\n'),
  ('v', '\x0b'), ('f', '\x0c'), ('r', '\r'), ('e', '\x1b'), (' ', ' '), ('"', '"'),
  ('\\', '\\'), ('/', '/'), ('N', '\x85'), ('_', '\xa0'), ('L', '\u2028'), ('P', '\u2029')]

def numberedEscapes : List (Char × Nat) := [('x', 2), ('u', 4), ('U', 8)]

/-- The breaks after a line break inside a quoted scalar; a document separator is an error. -/
def quotedBreaks? : Nat → Cursor → Option (List Char × Cursor)
  | 0, k => some ([], k)
  | fuel + 1, k =>
    if k.atAnySeparator then none
    else
      let k := k.skipWhile fun c => c = ' ' || c = '\t'
      match k.lineBreak? with
      | none => some ([], k)
      | some (c, k) => (quotedBreaks? fuel k).map fun (more, k) => (c :: more, k)

/-- The largest number of an escape that is tried at all. -/
def escapeLimit : Nat := 0x7fffffff

def numbered (code : Nat) : Except Fault (List Char) :=
  if code < 0x110000 then .ok (Text.Point.ofCode code).spell
  else if code ≤ escapeLimit then .error .unreadable
  else .error .tooLarge

def quotedEscape (k : Cursor) : Except Fault (List Char × Cursor) :=
  match k.peek? with
  | none => .error .malformed
  | some c =>
    match escapes.lookup c, numberedEscapes.lookup c with
    | some e, _ => .ok ([e], k.step)
    | none, some count =>
      let digits := k.step.rest.take count
      match if digits.length = count then Text.hexNumber? digits else none with
      | some code => (numbered code).map fun cs => (cs, k.steps (count + 1))
      | none => .error .malformed
    | none, none =>
      match k.lineBreak? with
      | some (_, k) => orMalformed (quotedBreaks? (k.rest.length + 1) k)
      | none => .error .malformed

/-- A scalar between quotes, from behind its opening quote to behind its closing one. -/
def quoted (quote : Char) : Nat → Cursor → Except Fault (List Char × Cursor)
  | 0, _ => .error .malformed
  | fuel + 1, k =>
    match k.peek? with
    | none => .error .malformed
    | some c =>
      if c = quote then
        if quote = '\'' && k.at? 1 = some '\'' then
          (quoted quote fuel (k.steps 2)).map fun (more, k) => ('\'' :: more, k)
        else .ok ([], k.step)
      else if c = '\\' && quote = '"' then
        match quotedEscape k.step with
        | .error f => .error f
        | .ok (cs, k) => (quoted quote fuel k).map fun (more, k) => (cs ++ more, k)
      else if c = ' ' || c = '\t' || isBreak c then
        let (blanks, k) := k.takeWhile fun c => c = ' ' || c = '\t'
        match k.lineBreak? with
        | none => (quoted quote fuel k).map fun (more, k) => (blanks ++ more, k)
        | some (first, k) =>
          match quotedBreaks? (k.rest.length + 1) k with
          | none => .error .malformed
          | some (breaks, k) =>
            (quoted quote fuel k).map fun (more, k) => (folded first breaks ++ more, k)
      else (quoted quote fuel k.step).map fun (more, k) => (c :: more, k)

/-! ## Block scalars -/

inductive Chomping where
  | clip
  | strip
  | keep
  deriving DecidableEq

/-- The marks after the sign of a block scalar: how its end is cut and how far it is indented. -/
def blockHeader? (k : Cursor) : Option ((Chomping × Option Nat) × Cursor) := do
  let chomping? (c : Option Char) : Option Chomping :=
    if c = some '+' then some .keep else if c = some '-' then some .strip else none
  let digit? (c : Option Char) : Option Nat :=
    c.bind fun c => if c.isDigit then some (c.toNat - 48) else none
  let (header, k) ← match chomping? k.peek?, digit? k.peek? with
    | some chomping, _ =>
      match digit? k.step.peek? with
      | some n => some ((chomping, some n), k.steps 2)
      | none => some ((chomping, none), k.step)
    | none, some n =>
      match chomping? k.step.peek? with
      | some chomping => some ((chomping, some n), k.steps 2)
      | none => some ((.clip, some n), k.step)
    | none, none => some ((.clip, none), k)
  if header.2 = some 0 then none
  else if k.peek?.any fun c => !(c = ' ' || isBreak c) then none
  else
    let k := k.skipBlanks
    let k := if k.peek? = some '#' then k.skipWhile fun c => !isBreak c else k
    match k.lineBreak?, k.peek? with
    | some (_, k), _ => some (header, k)
    | none, none => some (header, k)
    | none, some _ => none

/-- Blank lines in front of a block scalar, with the largest column that blanks reach. -/
def blockIndentation : Nat → Cursor → Nat → List Char × Nat × Cursor
  | 0, k, deepest => ([], deepest, k)
  | fuel + 1, k, deepest =>
    let k := k.skipBlanks
    let deepest := max deepest k.column
    match k.lineBreak? with
    | none => ([], deepest, k)
    | some (c, k) =>
      let (more, deepest, k) := blockIndentation fuel k deepest
      (c :: more, deepest, k)

def skipTo (column : Nat) : Nat → Cursor → Cursor
  | 0, k => k
  | fuel + 1, k =>
    if k.column < column && k.peek? = some ' ' then skipTo column fuel k.step else k

def blockBreaks (column : Nat) : Nat → Cursor → List Char × Cursor
  | 0, k => ([], k)
  | fuel + 1, k =>
    let k := skipTo column column k
    match k.lineBreak? with
    | none => ([], k)
    | some (c, k) =>
      let (more, k) := blockBreaks column fuel k
      (c :: more, k)

/-- The lines of a block scalar that starts at a column; `breaks` are the blank lines in front. -/
def blockLines (isFolded : Bool) (chomping : Chomping) (column : Nat) :
    Nat → Cursor → List Char → List Char × Cursor
  | 0, k, _ => ([], k)
  | fuel + 1, k, breaks =>
    if k.column = column && k.peek?.isSome then
      let startsBlank := k.peek?.any fun c => c = ' ' || c = '\t'
      let (line, k) := k.takeWhile fun c => !isBreak c
      let (lineEnd, k) := match k.lineBreak? with
        | some (c, k) => ([c], k)
        | none => ([], k)
      let (next, k) := blockBreaks column (k.rest.length + 1) k
      if k.column = column && k.peek?.isSome then
        let nextBlank := k.peek?.any fun c => c = ' ' || c = '\t'
        let joint := if isFolded && lineEnd = ['\n'] && !startsBlank && !nextBlank then
            if next.isEmpty then [' '] else []
          else lineEnd
        let (more, k) := blockLines isFolded chomping column fuel k next
        (breaks ++ line ++ joint ++ more, k)
      else
        let tail := match chomping with
          | .clip => lineEnd
          | .strip => []
          | .keep => lineEnd ++ next
        (breaks ++ line ++ tail, k)
    else (if chomping = .keep then breaks else [], k)

/-- A block scalar from behind its sign. `indent` is the indentation around it. -/
def block? (isFolded : Bool) (indent : Int) (k : Cursor) : Option (List Char × Cursor) := do
  let ((chomping, increment), k) ← blockHeader? k
  let least := (max (indent + 1) 1).toNat
  let fuel := k.rest.length + 1
  match increment with
  | none =>
    let (breaks, deepest, k) := blockIndentation fuel k 0
    return blockLines isFolded chomping (max least deepest) fuel k breaks
  | some n =>
    let column := least + n - 1
    let (breaks, k) := blockBreaks column fuel k
    return blockLines isFolded chomping column fuel k breaks

end Cursor

end Bitemporal.Yaml
