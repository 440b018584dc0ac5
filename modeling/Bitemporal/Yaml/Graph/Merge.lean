import Bitemporal.Yaml.Graph

/-!
# Merging YAML mappings

An entry whose key is the sign for merging brings in the entries of another mapping, or of several,
in front of the entries that are written out. Of several mappings the last one comes first, so that
the entries of the first one, which come later, count most.
-/

namespace Bitemporal.Yaml.Graph

abbrev Entry := Place × Place

def entries (g : Graph) (p : Place) : List Entry :=
  match g.get p with
  | .mapping _ entries => entries
  | _ => []

def withEntries (g : Graph) (p : Place) (entries : List Entry) : Graph :=
  match g.get p with
  | .mapping tag _ => g.set p (.mapping tag entries)
  | _ => g

def hasTag (g : Graph) (tag : Tag) (p : Place) : Bool := (g.get p).tag = tag

/-- The value of the first entry for merging, and the graph without that entry. -/
def takeMerge? (g : Graph) (p : Place) : Option (Place × Graph) :=
  let entries := g.entries p
  let front := entries.takeWhile fun entry => !g.hasTag .merge entry.1
  match entries.drop front.length with
  | [] => none
  | (_, value) :: rest => some (value, g.withEntries p (front ++ rest))

/-- Makes texts of the keys of a mapping that are the sign for a default value. -/
def spellDefaults (g : Graph) (p : Place) : Graph :=
  ((g.entries p).filter fun entry => g.hasTag .default entry.1).foldl
    (fun g entry => g.set entry.1 ((g.get entry.1).withTag .text)) g

def mergeLimit : Nat := 985

mutual

/-- Replaces the entries for merging of a mapping by what they bring in. The fuel bounds the number
of steps, and `depth` is how much deeper merging may go. -/
def flatten : Nat → Nat → Place → Graph → Except Fault Graph
  | 0, _, _, _ | _, 0, _, _ => .error .tooDeep
  | fuel + 1, depth + 1, p, g =>
    match bring fuel depth p [] g with
    | .error f => .error f
    | .ok (brought, g) => .ok ((g.spellDefaults p).withEntries p (brought ++ g.entries p))

/-- What the entries for merging of a mapping bring in, after what they have brought in so far. -/
def bring : Nat → Nat → Place → List Entry → Graph → Except Fault (List Entry × Graph)
  | 0, _, _, _, _ => .error .tooDeep
  | fuel + 1, depth, p, brought, g =>
    match g.takeMerge? p with
    | none => .ok (brought, g)
    | some (value, g) =>
      match g.get value with
      | .scalar .. => .error .malformed
      | .mapping .. =>
        match flatten fuel depth value g with
        | .error f => .error f
        | .ok g => bring fuel depth p (brought ++ g.entries value) g
      | .sequence _ items =>
        match flattenAll fuel depth items g with
        | .error f => .error f
        | .ok (groups, g) => bring fuel depth p (brought ++ groups.reverse.flatten) g

def flattenAll : Nat → Nat → List Place → Graph → Except Fault (List (List Entry) × Graph)
  | 0, _, _, _ => .error .tooDeep
  | _, _, [], g => .ok ([], g)
  | fuel + 1, depth, p :: rest, g =>
    match g.get p with
    | .mapping .. =>
      match flatten fuel depth p g with
      | .error f => .error f
      | .ok g =>
        let group := g.entries p
        (flattenAll fuel depth rest g).map fun (groups, g) => (group :: groups, g)
    | _ => .error .malformed

end

def weight (g : Graph) : Nat :=
  g.nodes.foldl (fun n node =>
    match node with
    | .scalar .. => n + 1
    | .sequence _ items => n + items.length + 1
    | .mapping _ entries => n + entries.length + 1) 1

/-- The graph with a mapping after merging. Every step uses up an entry for merging, or an item of
its value. -/
def merged (g : Graph) (p : Place) : Except Fault Graph :=
  flatten (g.weight * g.weight + g.weight + 3) mergeLimit p g

end Bitemporal.Yaml.Graph
