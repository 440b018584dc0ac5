import Bitemporal.Yaml.Token

/-!
# Cutting a YAML text into tokens

Whether a node is an implicit key shows only at the colon behind it. So the place of a node that
may turn out to be a key is kept, one for each level of brackets, and the tokens that announce a
key are put in there afterwards. A place is forgotten at the end of its line or after 1024
characters; a node that stands where only a key can stand is an error then.
-/

namespace Bitemporal.Yaml

structure PendingKey where
  /-- How many tokens stand in front of the node. -/
  number : Nat
  /-- The node can be nothing but a key. -/
  required : Bool
  offset : Nat
  line : Nat
  column : Nat

structure Lexer where
  cursor : Cursor
  /-- The tokens so far, newest first. -/
  tokens : List Token
  count : Nat
  /-- The columns of the open indented collections, innermost first. -/
  indents : List Nat
  /-- An implicit key may start here. -/
  keyAllowed : Bool
  pending : Option PendingKey
  /-- The pending keys outside of the open brackets, innermost first. -/
  outer : List (Option PendingKey)

namespace Lexer

def ofText (cs : List Char) : Lexer :=
  let k := Cursor.ofText cs
  ⟨if k.peek? = some byteOrderMark then k.step else k, [], 0, [], true, none, []⟩

/-- Between brackets, indentation has no meaning. -/
def inFlow (l : Lexer) : Bool := !l.outer.isEmpty

def column (l : Lexer) : Nat := l.cursor.column

def indent (l : Lexer) : Int := (l.indents.head?.map Int.ofNat).getD (-1)

def emit (t : Token) (l : Lexer) : Lexer :=
  { l with tokens := t :: l.tokens, count := l.count + 1 }

/-- Closes the indented collections that lie deeper than a column. -/
def unwind (column : Int) (l : Lexer) : Lexer :=
  if l.inFlow then l
  else
    let closed := l.indents.takeWhile fun (n : Nat) => column < (n : Int)
    { l with
      tokens := List.replicate closed.length Token.blockEnd ++ l.tokens
      count := l.count + closed.length
      indents := l.indents.drop closed.length }

def openAt (column : Nat) (t : Token) (l : Lexer) : Lexer :=
  if l.indent < column then { l.emit t with indents := column :: l.indents } else l

/-! ## Pending keys -/

def refreshed (k : Cursor) : Option PendingKey → Option (Option PendingKey)
  | none => some none
  | some key =>
    if key.line ≠ k.line || 1024 < k.offset - key.offset then
      if key.required then none else some none
    else some (some key)

def dropStale? (l : Lexer) : Option Lexer := do
  let pending ← refreshed l.cursor l.pending
  let outer ← l.outer.mapM (refreshed l.cursor)
  return { l with pending, outer }

def dropKey? (l : Lexer) : Option Lexer :=
  if l.pending.any PendingKey.required then none else some { l with pending := none }

/-- Keeps this place as that of a pending key, if a key may start here. -/
def saveKey? (l : Lexer) : Option Lexer :=
  if l.keyAllowed then do
    let required := !l.inFlow && l.indent = l.column
    let key := ⟨l.count, required, l.cursor.offset, l.cursor.line, l.column⟩
    let l ← l.dropKey?
    return { l with pending := some key }
  else some l

def announceKey (key : PendingKey) (l : Lexer) : Lexer :=
  let newer := l.tokens.take (l.count - key.number)
  let older := l.tokens.drop (l.count - key.number)
  if !l.inFlow && l.indent < key.column then
    { l with
      tokens := newer ++ Token.key :: Token.mappingStart :: older
      count := l.count + 2
      indents := key.column :: l.indents }
  else { l with tokens := newer ++ Token.key :: older, count := l.count + 1 }

/-! ## Tokens -/

/-- Blanks, comments and line breaks. A new line outside of brackets may start with a key. -/
def skipGaps : Nat → Lexer → Lexer
  | 0, l => l
  | fuel + 1, l =>
    let k := l.cursor.skipBlanks
    let k := if k.peek? = some '#' then k.skipWhile fun c => !isBreak c else k
    match k.lineBreak? with
    | none => { l with cursor := k }
    | some (_, k) => skipGaps fuel { l with cursor := k, keyAllowed := l.keyAllowed || !l.inFlow }

/-- A line that belongs to no node: a directive or a mark between documents. -/
def outsideDocument? (t : Token) (next : Cursor) (l : Lexer) : Option Lexer := do
  let l ← (l.unwind (-1)).dropKey?
  return { l.emit t with cursor := next, keyAllowed := false }

def openBracket? (t : Token) (l : Lexer) : Option Lexer := do
  let l ← l.saveKey?
  return { l.emit t with
    cursor := l.cursor.step, keyAllowed := true, outer := l.pending :: l.outer, pending := none }

def closeBracket? (t : Token) (l : Lexer) : Option Lexer := do
  let l ← l.dropKey?
  match l.outer with
  | [] => none
  | pending :: outer =>
    return { l.emit t with cursor := l.cursor.step, keyAllowed := false, outer, pending }

def comma? (l : Lexer) : Option Lexer := do
  let l ← l.dropKey?
  return { l.emit .comma with cursor := l.cursor.step, keyAllowed := true }

def dash? (l : Lexer) : Option Lexer := do
  let l ← if l.inFlow then some l
    else if l.keyAllowed then some (l.openAt l.column .sequenceStart)
    else none
  let l ← l.dropKey?
  return { l.emit .dash with cursor := l.cursor.step, keyAllowed := true }

def explicitKey? (l : Lexer) : Option Lexer := do
  let l ← if l.inFlow then some l
    else if l.keyAllowed then some (l.openAt l.column .mappingStart)
    else none
  let l ← l.dropKey?
  return { l.emit .key with cursor := l.cursor.step, keyAllowed := !l.inFlow }

def colon? (l : Lexer) : Option Lexer :=
  match l.pending with
  | some key =>
    let l := { l with pending := none }.announceKey key
    some { l.emit .value with cursor := l.cursor.step, keyAllowed := false }
  | none =>
    if l.inFlow then some { l.emit .value with cursor := l.cursor.step, keyAllowed := false }
    else if l.keyAllowed then
      let l := l.openAt l.column .mappingStart
      some { l.emit .value with cursor := l.cursor.step, keyAllowed := true }
    else none

def keyLike? (t : Token) (next : Cursor) (l : Lexer) : Option Lexer := do
  let l ← l.saveKey?
  return { l.emit t with cursor := next, keyAllowed := false }

def plain? (l : Lexer) : Option Lexer := do
  let (cs, next, broken) :=
    l.cursor.plain l.inFlow (l.indent + 1) (l.cursor.rest.length + 1) false
  let l ← l.keyLike? (.scalar (String.ofList cs) true) next
  return { l with keyAllowed := broken }

def quoted (quote : Char) (l : Lexer) : Except Fault Lexer := do
  let l ← orMalformed l.saveKey?
  let (cs, next) ← l.cursor.step.quoted quote (l.cursor.rest.length + 1)
  return { l.emit (.scalar (String.ofList cs) false) with cursor := next, keyAllowed := false }

def block? (isFolded : Bool) (l : Lexer) : Option Lexer := do
  let l ← l.dropKey?
  let (cs, next) ← l.cursor.step.block? isFolded l.indent
  return { l.emit (.scalar (String.ofList cs) false) with cursor := next, keyAllowed := true }

/-- Characters that do not start a plain scalar on their own. -/
def indicators : List Char := "-?:,[]\x7b\x7d#&*!|>'\"%@\x60".toList

def atPlain (l : Lexer) : Bool :=
  l.cursor.peek?.any fun c =>
    (!isGap (some c) && !indicators.contains c) ||
      (!isGap (l.cursor.at? 1) && (c = '-' || (!l.inFlow && (c = '?' || c = ':'))))

/-- The token that starts with a character and can be no fault but a malformed one. -/
def fetch? (c : Char) (l : Lexer) : Option Lexer :=
  let k := l.cursor
  let beforeGap := isGap (k.at? 1)
  if k.column = 0 && k.atSeparator '-' then l.outsideDocument? .documentStart (k.steps 3)
  else if k.column = 0 && k.atSeparator '.' then l.outsideDocument? .documentEnd (k.steps 3)
  else if c = '[' then l.openBracket? .bracketOpen
  else if c = '\x7b' then l.openBracket? .braceOpen
  else if c = ']' then l.closeBracket? .bracketClose
  else if c = '\x7d' then l.closeBracket? .braceClose
  else if c = ',' then l.comma?
  else if c = '-' && beforeGap then l.dash?
  else if c = '?' && (l.inFlow || beforeGap) then l.explicitKey?
  else if c = ':' && (l.inFlow || beforeGap) then l.colon?
  else if c = '*' then do
    let (name, next) ← k.anchorName?
    l.keyLike? (.reference name) next
  else if c = '&' then do
    let (name, next) ← k.anchorName?
    l.keyLike? (.anchor name) next
  else if c = '!' then do
    let ((handle, suffix), next) ← k.tag?
    l.keyLike? (.tag handle suffix) next
  else if c = '|' && !l.inFlow then l.block? false
  else if c = '>' && !l.inFlow then l.block? true
  else if l.atPlain then l.plain?
  else none

def fetch (c : Char) (l : Lexer) : Except Fault Lexer :=
  if c = '%' && l.column = 0 then do
    let l ← orMalformed (l.unwind (-1)).dropKey?
    let (d, next) ← l.cursor.step.directive
    orMalformed (l.outsideDocument? (.directive d) next)
  else if c = '\'' || c = '"' then l.quoted c
  else orMalformed (l.fetch? c)

/-- One token more, with those that it brings along, or nothing at the end of the text. -/
def next (l : Lexer) : Except Fault (Lexer × Bool) := do
  let l ← orMalformed (l.skipGaps (l.cursor.rest.length + 1)).dropStale?
  let l := l.unwind l.column
  match l.cursor.peek? with
  | none =>
    let l ← orMalformed (l.unwind (-1)).dropKey?
    return (l, false)
  | some c => return (← l.fetch c, true)

/-- The tokens that nothing can be put in front of any more: those before the first pending key. -/
def settled (l : Lexer) : List Token :=
  let l := l.dropStale?.getD l
  let numbers := (l.pending :: l.outer).filterMap fun key => key.map PendingKey.number
  l.tokens.reverse.take (numbers.foldl min l.count)

end Lexer

/-- The tokens of a text, and the fault that is met behind them, if the text has one. -/
structure TokenStream where
  tokens : List Token
  fault : Option Fault

namespace TokenStream

def run : Nat → Lexer → TokenStream
  | 0, l => ⟨l.settled, some .malformed⟩
  | fuel + 1, l =>
    match l.next with
    | .error f => ⟨l.settled, some f⟩
    | .ok (l, true) => run fuel l
    | .ok (l, false) => ⟨l.tokens.reverse, none⟩

def ofText (text : String) : TokenStream :=
  let cs := text.toList
  if cs.all isAllowed then run (cs.length + 1) (Lexer.ofText cs) else ⟨[], some .malformed⟩

end TokenStream

end Bitemporal.Yaml
