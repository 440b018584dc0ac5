import Bitemporal.Yaml.Graph.Merge
import Bitemporal.Yaml.Graph.Reader

/-!
# The data of a YAML document

What the nodes of a document denote. Of a document only the outermost collection is kept, but all
nodes that it leads to have to denote something. Scalars are read where they are met; collections
wait in line, so that the outer ones are filled before the inner ones. The first fault in that order
is the one that counts.

The keys of a mapping are scalars, and keys that are equal as values are one key: the last value
counts, at the place of the first.
-/

namespace Bitemporal.Yaml

inductive Datum where
  | scalar (v : Value)
  | sequence (length : Nat)
  /-- The entries of a mapping; collections among their values are shown empty. -/
  | mapping (entries : List (Value × Value))
  | set (members : List Value)

inductive Form where
  | scalar
  | sequence
  /-- A sequence of pairs, which are written as mappings of one entry. -/
  | pairs
  | mapping
  | set

def Tag.form? : Tag → Option Form
  | null | bool | int | float | moment | text | binary => some .scalar
  | sequence => some .sequence
  | pairs | orderedPairs => some .pairs
  | mapping => some .mapping
  | set => some .set
  | merge | default | other => none

namespace Datum

/-! ## Keys -/

def integer? : Value → Option Int
  | .bool b => some (if b then 1 else 0)
  | .int n => some n
  | .float x => x.toInt?
  | _ => none

/-- Whether two keys are the same. Numbers are compared by value, and moments on the same side of
having an offset by their place in time. -/
def sameKey (a b : Value) : Bool :=
  match a, b with
  | .null, .null => true
  | .text s, .text t => s = t
  | .bytes s, .bytes t => s = t
  | .date d, .date e => d = e
  | .dateTime t, .dateTime u => t.offset.isSome = u.offset.isSome && t.micros = u.micros
  | .float x, .float y => x.eqv y || (x = .nan && y = .nan)
  | _, _ =>
    match integer? a, integer? b with
    | some m, some n => m = n
    | _, _ => false

def upsert (key d : Value) : List (Value × Value) → List (Value × Value)
  | [] => [(key, d)]
  | (k, e) :: rest => if sameKey k key then (k, d) :: rest else (k, e) :: upsert key d rest

def collect (entries : List (Value × Value)) : List (Value × Value) :=
  entries.foldl (fun collected entry => upsert entry.1 entry.2 collected) []

/-! ## Scalars -/

/-- The text of a node that is tagged as a scalar. A mapping has the text of its default value. The
fuel bounds how deeply default values are nested; only a mapping that is part of its own default
value exceeds it. -/
def scalarText (g : Graph) : Nat → Place → Except Fault String
  | 0, _ => .error .tooDeep
  | fuel + 1, p =>
    match g.get p with
    | .scalar _ text => .ok text
    | .sequence .. => .error .malformed
    | .mapping _ entries =>
      match entries.find? fun entry => g.hasTag .default entry.1 with
      | some (_, value) => scalarText g fuel value
      | none => .error .malformed

def scalarValue (g : Graph) (p : Place) : Except Fault Value := do
  let text ← scalarText g (g.size + 1) p
  match g.get p with
  | .mapping .moment _ => throw .mappedMoment
  | n => Scalar.value n.tag text

/-! ## Nodes -/

inductive Made where
  | scalar (v : Value)
  /-- A collection, shown as an empty value. -/
  | collection (shown : Value)

def Made.shown : Made → Value
  | scalar v => v
  | collection v => v

structure Progress where
  graph : Graph
  /-- What has been made of the node at each place. -/
  made : Array (Option Made)
  /-- Collections that are still to be filled, newest first. -/
  waiting : List Place

abbrev Making (α : Type) := StateT Progress (Except Fault) α

def Progress.made? (s : Progress) (p : Place) : Option Made := (s.made[p]?).join

def keep (p : Place) (m : Made) : Making Made := do
  modify fun s => { s with made := s.made.setIfInBounds p (some m) }
  return m

/-- Makes a collection that is to be filled later. -/
def wait (p : Place) (shown : Value) : Making Made := do
  modify fun s => { s with waiting := p :: s.waiting }
  keep p (.collection shown)

/-- What a node denotes. A node is made only once. -/
def make (p : Place) : Making Made := do
  let s ← get
  match s.made? p with
  | some m => return m
  | none =>
    match (s.graph.get p).tag.form? with
    | none => throw .malformed
    | some .scalar =>
      let v ← scalarValue s.graph p
      keep p (.scalar v)
    | some .mapping => wait p (.object [])
    | some .sequence | some .pairs | some .set => wait p (.list [])

def makePair (p : Place) : Making Unit := do
  match (← get).graph.get p with
  | .mapping _ [(key, value)] =>
    let _ ← make key
    let _ ← make value
  | _ => throw .malformed

/-- Makes the parts of an entry. Collections are no keys. -/
def makeEntry (entry : Place × Place) : Making Unit := do
  match ← make entry.1 with
  | .collection _ => throw .malformed
  | .scalar _ =>
    let _ ← make entry.2

def fill (p : Place) : Making Unit := do
  let n := (← get).graph.get p
  match n.tag.form?, n with
  | some .sequence, .sequence _ items => items.forM fun item => do let _ ← make item
  | some .pairs, .sequence _ items => items.forM makePair
  | some .mapping, .mapping .. | some .set, .mapping .. =>
    let graph ← (← get).graph.merged p
    modify fun s => { s with graph }
    (graph.entries p).forM makeEntry
  | _, _ => throw .malformed

/-- Fills the collections in line and those that they bring along. No collection is in line twice,
so the number of nodes bounds the number of rounds. -/
def fillAll : Nat → Making Unit
  | 0 => return
  | fuel + 1 => do
    let waiting := (← get).waiting.reverse
    if waiting.isEmpty then return
    else
      modify fun s => { s with waiting := [] }
      waiting.forM fill
      fillAll fuel

def Progress.entries (s : Progress) (p : Place) : List (Value × Value) :=
  collect ((s.graph.entries p).filterMap fun entry => do
    return ((← s.made? entry.1).shown, (← s.made? entry.2).shown))

def ofRoot (root : Place) : Making Datum := do
  let m ← make root
  fillAll ((← get).graph.size + 1)
  let s ← get
  match m, s.graph.get root with
  | .scalar v, _ => return scalar v
  | .collection _, .mapping .set _ => return set ((s.entries root).map Prod.fst)
  | .collection _, .mapping .. => return mapping (s.entries root)
  | .collection _, .sequence _ items => return sequence items.length
  | .collection _, .scalar .. => throw .malformed

/-- What a whole text denotes; without a document, nothing. -/
def read (text : String) : Except Fault Datum := do
  let (graph, root) ← Graph.ofText text
  match root with
  | none => return scalar .null
  | some root => (ofRoot root).run' ⟨graph, Array.replicate graph.size none, []⟩

/-! ## Views -/

def kind : Datum → String
  | scalar v => v.kind
  | sequence _ => (Value.list []).kind
  | mapping _ => (Value.object []).kind
  | set _ => "set"

/-- Nothing, zero, or something without content. -/
def isBlank : Datum → Bool
  | scalar v =>
    match v with
    | .null => true
    | .text s => s.isEmpty
    | .bytes data => data.isEmpty
    | v => integer? v = some 0
  | sequence length => length = 0
  | mapping entries => entries.isEmpty
  | set members => members.isEmpty

end Datum

end Bitemporal.Yaml
