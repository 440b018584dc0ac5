import Bitemporal.OrderedMap
import Bitemporal.Text.Blank

/-!
# Files of environment variables

Each line gives a variable a value: `NAME=value`, perhaps after the word `export`. Values may stand
in quotes, and then they may run over several lines and hold escapes. A name alone has no value.
Comments start with a number sign. A line that cannot be read is passed over.

A value may refer to variables: `${NAME}`, or `${NAME:-default}` for one that may be absent.
-/

namespace Bitemporal.EnvironmentFile

/-- Blanks that do not end a line. -/
def isInlineBlank (c : Char) : Bool := Text.isBlank c && c ≠ '\n' && c ≠ '\r'

def isLineEnd (c : Char) : Bool := c = '\n' || c = '\r'

def skipInline (cs : List Char) : List Char := cs.dropWhile isInlineBlank

def nextLine (cs : List Char) : List Char :=
  match cs.dropWhile fun c => !isLineEnd c with
  | '\r' :: rest => rest
  | _ :: rest => rest
  | [] => []

/-- A result with what follows it, or the place where reading stopped. -/
abbrev Step (α : Type) := Except (List Char) (α × List Char)

def skipExport (cs : List Char) : List Char :=
  let word := "export".toList
  let rest := cs.drop word.length
  if cs.take word.length = word && rest.head?.any isInlineBlank then skipInline rest else cs

def key (cs : List Char) : Step (Option String) :=
  match cs with
  | '#' :: _ => .ok (none, cs)
  | '\'' :: rest =>
    let name := rest.takeWhile (· ≠ '\'')
    match name, rest.drop name.length with
    | _ :: _, _ :: rest => .ok (some (String.ofList name), rest)
    | _, _ => .error cs
  | _ =>
    match cs.takeWhile fun c => c ≠ '=' && c ≠ '#' && !Text.isBlank c with
    | [] => .error cs
    | name => .ok (some (String.ofList name), cs.drop name.length)

/-- The characters up to the closing quote. A character behind a backslash does not close. -/
def upToQuote? (quote : Char) : List Char → Option (List Char × List Char)
  | [] => none
  | '\\' :: c :: rest => (upToQuote? quote rest).map fun (cs, rest) => ('\\' :: c :: cs, rest)
  | c :: rest =>
    if c = quote then some ([], rest)
    else (upToQuote? quote rest).map fun (cs, rest) => (c :: cs, rest)

def singleEscapes : List (Char × Char) := [('\\', '\\'), ('\'', '\'')]

def doubleEscapes : List (Char × Char) := [
  ('\\', '\\'), ('\'', '\''), ('"', '"'), ('a', '\x07'), ('b', '\x08'), ('f', '\x0c'),
  ('n', '\n'), ('r', '\r'), ('t', '\t'), ('v', '\x0b')]

def unescape (escapes : List (Char × Char)) : List Char → List Char
  | '\\' :: c :: rest =>
    match escapes.lookup c with
    | some e => e :: unescape escapes rest
    | none => '\\' :: unescape escapes (c :: rest)
  | c :: rest => c :: unescape escapes rest
  | [] => []

/-- A line up to a number sign that blanks stand in front of. -/
def beforeComment : List Char → List Char
  | [] => []
  | c :: rest =>
    if Text.isBlank c && (rest.dropWhile Text.isBlank).head? = some '#' then []
    else c :: beforeComment rest

def trimEnd (cs : List Char) : List Char := (cs.reverse.dropWhile Text.isBlank).reverse

/-- The value behind the equals sign. A comment may follow the sign at once, behind blanks. -/
def value (cs : List Char) : Step String :=
  let between (quote : Char) (escapes : List (Char × Char)) (rest : List Char) : Step String :=
    match upToQuote? quote rest with
    | some (inside, rest) => .ok (String.ofList (unescape escapes inside), rest)
    | none => .error (skipInline cs)
  match skipInline cs with
  | '\'' :: rest => between '\'' singleEscapes rest
  | '"' :: rest => between '"' doubleEscapes rest
  | _ =>
    let line := cs.takeWhile fun c => !isLineEnd c
    .ok (String.ofList (skipInline (trimEnd (beforeComment line))), cs.drop line.length)

def lineEnd (cs : List Char) : Step Unit :=
  let after := skipInline cs
  let cs := if after.head? = some '#' then after.dropWhile fun c => !isLineEnd c else cs
  match skipInline cs with
  | [] => .ok ((), [])
  | '\r' :: '\n' :: rest => .ok ((), rest)
  | c :: rest => if isLineEnd c then .ok ((), rest) else .error cs

def binding (cs : List Char) : Step (Option (String × Option String)) :=
  match key (skipExport cs) with
  | .error rest => .error rest
  | .ok (name, rest) =>
    let assigned : Step (Option String) := match skipInline rest with
      | '=' :: rest => (value rest).map fun (v, rest) => (some v, rest)
      | rest => .ok (none, rest)
    match assigned with
    | .error rest => .error rest
    | .ok (v, rest) => (lineEnd rest).map fun (_, rest) => (name.map fun n => (n, v), rest)

def bindings : Nat → List Char → List (String × Option String)
  | 0, _ => []
  | fuel + 1, cs =>
    match cs.dropWhile Text.isBlank with
    | [] => []
    | cs =>
      match binding cs with
      | .ok (some b, rest) => b :: bindings fuel rest
      | .ok (none, rest) => bindings fuel rest
      | .error rest => bindings fuel (nextLine rest)

/-! ## References to variables -/

/-- A reference behind its opening brace: a name, perhaps a default, and what follows. -/
def reference? (cs : List Char) : Option ((String × Option String) × List Char) :=
  let name := cs.takeWhile fun c => c ≠ '\x7d' && c ≠ ':'
  match cs.drop name.length with
  | '\x7d' :: rest => some ((String.ofList name, none), rest)
  | ':' :: '-' :: rest =>
    let default := rest.takeWhile (· ≠ '\x7d')
    match rest.drop default.length with
    | _ :: rest => some ((String.ofList name, some (String.ofList default)), rest)
    | [] => none
  | _ => none

def expand (find? : String → Option String) : Nat → List Char → List Char
  | 0, cs => cs
  | _, [] => []
  | fuel + 1, '$' :: '\x7b' :: rest =>
    match reference? rest with
    | some ((name, default), rest) =>
      ((find? name).getD (default.getD "")).toList ++ expand find? fuel rest
    | none => '$' :: expand find? fuel ('\x7b' :: rest)
  | fuel + 1, c :: rest => c :: expand find? fuel rest

/-- The variables of a file. References look at the variables given before in the file, then at
those of the surroundings. A variable without a value counts as an empty one. -/
def resolve (surrounding : OrderedMap String) (bindings : List (String × Option String)) :
    OrderedMap (Option String) :=
  bindings.foldl
    (fun resolved (name, v) =>
      let find? (n : String) : Option String :=
        match resolved.get? n with
        | some v => some (v.getD "")
        | none => surrounding.get? n
      resolved.insert name (v.map fun v =>
        String.ofList (expand find? (v.length + 1) v.toList))) ∅

/-- The variables that a file gives. A byte order mark in front does not count. -/
def read (surrounding : OrderedMap String) (text : String) : OrderedMap (Option String) :=
  let cs := match text.toList with
    | '\ufeff' :: rest => rest
    | cs => cs
  resolve surrounding (bindings (cs.length + 1) cs)

end Bitemporal.EnvironmentFile
