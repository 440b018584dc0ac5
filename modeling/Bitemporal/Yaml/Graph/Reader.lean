import Bitemporal.Yaml.Graph
import Bitemporal.Yaml.Lexer

/-!
# Reading YAML graphs

The graph that the tokens of a document spell out, with every tag resolved and every reference
replaced by the place that it names. Where a node may stand but none does, there is an empty one. A
fault behind the tokens counts only if they are all used up.
-/

namespace Bitemporal.Yaml

structure Reader where
  rest : TokenStream
  graph : Graph
  /-- Named places, newest first. -/
  anchors : List (String × Place)
  /-- Tag handles and what they stand for. -/
  handles : List (String × String)

abbrev Reading (α : Type) := StateT Reader (Except Fault) α

structure Properties where
  anchor : Option String := none
  tag : Option String := none

namespace Properties

/-- No tag, or the one that asks for the usual meaning. -/
def isImplicit (p : Properties) : Bool := p.tag.all (· = "!")

def isEmpty (p : Properties) : Bool := p.anchor.isNone && p.tag.isNone

def scalarTag (p : Properties) (text : String) (isPlain : Bool) : Tag :=
  match p.tag with
  | none => if isPlain then Tag.ofPlain text else .text
  | some name => if name = "!" then Tag.ofPlain text else Tag.ofName name

/-- The tag of a collection that is usually tagged otherwise. -/
def collectionTag (p : Properties) (usual : Tag) : Tag :=
  match p.tag with
  | some name => if name = "!" then usual else Tag.ofName name
  | none => usual

end Properties

namespace Reader

def standardHandles : List (String × String) := [("!", "!"), ("!!", Tag.standardPrefix)]

def depthLimit : Nat := 488

def ofStream (s : TokenStream) : Reader := ⟨s, Graph.empty, [], standardHandles⟩

/-! ## Steps -/

def peek : Reading (Option Token) := do
  let r ← get
  match r.rest.tokens, r.rest.fault with
  | t :: _, _ => return some t
  | [], some f => throw f
  | [], none => return none

def pass : Reading Unit :=
  modify fun r => { r with rest := { r.rest with tokens := r.rest.tokens.tail } }

def passed (isKind : Token → Bool) : Reading Bool := do
  if (← peek).any isKind then
    pass
    return true
  else return false

def sees (isKind : Token → Bool) : Reading Bool := return (← peek).any isKind

def place (n : Node) : Reading Place :=
  modifyGet fun r =>
    let (p, graph) := r.graph.add n
    (p, { r with graph })

def fill (p : Place) (n : Node) : Reading Unit :=
  modify fun r => { r with graph := r.graph.set p n }

def name (anchor : Option String) (p : Place) : Reading Unit :=
  match anchor with
  | some a => modify fun r => { r with anchors := (a, p) :: r.anchors }
  | none => return

def named (anchor : String) : Reading Place := do
  match (← get).anchors.lookup anchor with
  | some p => return p
  | none => throw .malformed

def missing : Reading Place := place .missing

def fullName (handle : Option String) (suffix : String) : Reading String := do
  match handle with
  | none => return suffix
  | some handle =>
    match (← get).handles.lookup handle with
    | some target => return target ++ suffix
    | none => throw .malformed

/-! ## Properties -/

def anchor? : Reading (Option String) := do
  match ← peek with
  | some (.anchor a) =>
    pass
    return some a
  | _ => return none

def tag? : Reading (Option (Option String × String)) := do
  match ← peek with
  | some (.tag handle suffix) =>
    pass
    return some (handle, suffix)
  | _ => return none

/-- The properties of the node at hand, in any order. -/
def properties : Reading Properties := do
  let first ← anchor?
  let tag ← tag?
  let anchor ← match first, tag with
    | none, some _ => anchor?
    | _, _ => pure first
  match tag with
  | none => return { anchor }
  | some (handle, suffix) => return { anchor, tag := some (← fullName handle suffix) }

def checkFresh (p : Properties) : Reading Unit := do
  let r ← get
  if p.anchor.any fun a => (r.anchors.lookup a).isSome then throw .malformed

/-! ## Kinds of tokens -/

def isDash : Token → Bool
  | .dash => true
  | _ => false

def isKey : Token → Bool
  | .key => true
  | _ => false

def isValue : Token → Bool
  | .value => true
  | _ => false

def isComma : Token → Bool
  | .comma => true
  | _ => false

def isBlockEnd : Token → Bool
  | .blockEnd => true
  | _ => false

def isBracketClose : Token → Bool
  | .bracketClose => true
  | _ => false

def isBraceClose : Token → Bool
  | .braceClose => true
  | _ => false

def isDocumentStart : Token → Bool
  | .documentStart => true
  | _ => false

def isDocumentEnd : Token → Bool
  | .documentEnd => true
  | _ => false

/-- The tokens that no item of an indented sequence starts with. -/
def endsItem (t : Token) : Bool := isDash t || isBlockEnd t

/-- The tokens that no item of a sequence at the level of its mapping starts with. -/
def endsLevelItem (t : Token) : Bool := isDash t || isKey t || isValue t || isBlockEnd t

/-- The tokens that no part of an indented mapping starts with. -/
def endsPart (t : Token) : Bool := isKey t || isValue t || isBlockEnd t

/-- The kind of collection that starts with a token. Indented collections may start here if
`indented` holds, and a sequence that is not indented further if `level` holds. -/
inductive Opening where
  | levelSequence
  | indentedSequence
  | indentedMapping
  | bracketSequence
  | braceMapping

def Opening.ofToken? (indented level : Bool) : Token → Option Opening
  | .dash => if level then some levelSequence else none
  | .sequenceStart => if indented then some indentedSequence else none
  | .mappingStart => if indented then some indentedMapping else none
  | .bracketOpen => some bracketSequence
  | .braceOpen => some braceMapping
  | _ => none

/-! ## Nodes -/

def emptyNode (p : Properties) : Reading Place := do
  if p.isEmpty then throw .malformed
  checkFresh p
  let q ← place (.scalar (p.scalarTag "" p.isImplicit) "")
  name p.anchor q
  return q

mutual

/-- A node. The fuel bounds the number of nested steps, and `depth` is how many more collections may
be opened. -/
def node : Nat → Nat → Bool → Bool → Reading Place
  | 0, _, _, _ => throw .malformed
  | fuel + 1, depth, indented, level => do
    match ← peek with
    | some (.reference name) =>
      pass
      named name
    | _ =>
      let p ← properties
      match ← peek with
      | none => emptyNode p
      | some (.scalar text isPlain) =>
        pass
        checkFresh p
        let q ← place (.scalar (p.scalarTag text isPlain) text)
        name p.anchor q
        return q
      | some t =>
        match Opening.ofToken? indented level t with
        | none => emptyNode p
        | some opening =>
          checkFresh p
          collection fuel depth p opening

def collection : Nat → Nat → Properties → Opening → Reading Place
  | 0, _, _, _ => throw .malformed
  | _, 0, _, _ => throw .tooDeep
  | fuel + 1, depth + 1, p, opening => do
    let sequenceOf (items : Reading (List Place)) : Reading Place := do
      let tag := p.collectionTag .sequence
      let q ← place (.sequence tag [])
      name p.anchor q
      fill q (.sequence tag (← items))
      return q
    let mappingOf (entries : Reading (List (Place × Place))) : Reading Place := do
      let tag := p.collectionTag .mapping
      let q ← place (.mapping tag [])
      name p.anchor q
      fill q (.mapping tag (← entries))
      return q
    match opening with
    | .levelSequence => sequenceOf (levelItems fuel depth)
    | .indentedSequence => sequenceOf (do pass; indentedItems fuel depth)
    | .bracketSequence => sequenceOf (do pass; bracketItems fuel depth)
    | .indentedMapping => mappingOf (do pass; indentedEntries fuel depth)
    | .braceMapping => mappingOf (do pass; braceEntries fuel depth)

def indentedItems : Nat → Nat → Reading (List Place)
  | 0, _ => throw .malformed
  | fuel + 1, depth => do
    if ← passed isDash then
      let item ← if ← sees endsItem then missing else node fuel depth true false
      return item :: (← indentedItems fuel depth)
    else if ← passed isBlockEnd then return []
    else throw .malformed

/-- The items of a sequence at the level of the mapping around it. -/
def levelItems : Nat → Nat → Reading (List Place)
  | 0, _ => throw .malformed
  | fuel + 1, depth => do
    if ← passed isDash then
      let item ← if ← sees endsLevelItem then missing else node fuel depth true false
      return item :: (← levelItems fuel depth)
    else return []

def indentedEntries : Nat → Nat → Reading (List (Place × Place))
  | 0, _ => throw .malformed
  | fuel + 1, depth => do
    if ← passed isKey then
      let key ← if ← sees endsPart then missing else node fuel depth true true
      let value ← if ← passed isValue then
          if ← sees endsPart then missing else node fuel depth true true
        else missing
      return (key, value) :: (← indentedEntries fuel depth)
    else if ← passed isBlockEnd then return []
    else throw .malformed

def pair : Nat → Nat → (Token → Bool) → Reading (Place × Place)
  | 0, _, _ => throw .malformed
  | fuel + 1, depth, isClose => do
    let key ← if ← sees fun t => isValue t || isComma t || isClose t then missing
      else node fuel depth false false
    let value ← if ← passed isValue then
        if ← sees fun t => isComma t || isClose t then missing else node fuel depth false false
      else missing
    return (key, value)

/-- A pair that is an item between square brackets: a mapping of its own. -/
def pairItem : Nat → Nat → Reading Place
  | 0, _ => throw .malformed
  | _, 0 => throw .tooDeep
  | fuel + 1, depth + 1 => do
    let entry ← pair fuel depth isBracketClose
    place (.mapping .mapping [entry])

def bracketItems : Nat → Nat → Reading (List Place)
  | 0, _ => throw .malformed
  | fuel + 1, depth => do
    if ← passed isBracketClose then return []
    else
      let item ← if ← passed isKey then pairItem fuel depth else node fuel depth false false
      if ← passed isComma then return item :: (← bracketItems fuel depth)
      else if ← passed isBracketClose then return [item]
      else throw .malformed

/-- The entries between braces up to the closing one. A lone node is a key without a value. -/
def braceEntries : Nat → Nat → Reading (List (Place × Place))
  | 0, _ => throw .malformed
  | fuel + 1, depth => do
    if ← passed isBraceClose then return []
    else
      let entry ← if ← passed isKey then pair fuel depth isBraceClose
        else do
          let key ← node fuel depth false false
          pure (key, ← missing)
      if ← passed isComma then return entry :: (← braceEntries fuel depth)
      else if ← passed isBraceClose then return [entry]
      else throw .malformed

end

/-! ## Documents -/

/-- The directives in front of a document: whether a version is given, and the tag handles. -/
def directives : Nat → Bool → List (String × String) → Reading (List (String × String))
  | 0, _, _ => throw .malformed
  | fuel + 1, versioned, handles => do
    match ← peek with
    | some (.directive (.version major)) =>
      pass
      if versioned || major ≠ 1 then throw .malformed
      directives fuel true handles
    | some (.directive (.tagHandle name target)) =>
      pass
      if (handles.lookup name).isSome then throw .malformed
      directives fuel versioned ((name, target) :: handles)
    | some (.directive .other) =>
      pass
      directives fuel versioned handles
    | _ => return handles

def start (fuel : Nat) : Reading Unit := do
  let handles ← directives fuel false []
  if ← passed isDocumentStart then
    modify fun r => { r with handles := handles ++ standardHandles }
  else throw .malformed

def content (fuel : Nat) : Reading Place := do
  match ← peek with
  | none | some (.directive _) | some .documentStart | some .documentEnd => missing
  | _ => node fuel depthLimit true false

/-- The end of a document: nothing may follow but marks of its end. -/
def finish : Nat → Reading Unit
  | 0 => throw .malformed
  | fuel + 1 => do
    if ← passed isDocumentEnd then finish fuel
    else if (← peek).isSome then
      start fuel
      throw .malformed

/-- The root of the single document of a text; an empty text has none. -/
def document (fuel : Nat) : Reading (Option Place) := do
  match ← peek with
  | none => return none
  | some (.directive _) | some .documentStart =>
    start fuel
    let root ← content fuel
    finish fuel
    return some root
  | _ =>
    let root ← node fuel depthLimit true false
    finish fuel
    return some root

end Reader

namespace Graph

def ofText (text : String) : Except Fault (Graph × Option Place) := do
  let s := TokenStream.ofText text
  let (root, r) ← (Reader.document (4 * s.tokens.length + 4)).run (.ofStream s)
  return (r.graph, root)

end Graph

end Bitemporal.Yaml
