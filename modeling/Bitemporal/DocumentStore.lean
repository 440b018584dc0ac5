import Bitemporal.FieldIndex
import Bitemporal.Number.Binary64
import Bitemporal.Predicate

/-!
# Document stores

A store keeps the integer fields of each document, and an index for each field that was ever
stored. A predicate is answered from the indexes: leaves by ranges of values, nodes by intersection
of their required clauses or by union of their optional ones. The documents found are then scored
and ordered.
-/

namespace Bitemporal

structure DocumentStore where
  documents : OrderedMap Fields
  indexes : OrderedMap FieldIndex

structure Hit where
  id : String
  score : Binary64

namespace DocumentStore

def empty : DocumentStore := ⟨∅, ∅⟩

instance : EmptyCollection DocumentStore := ⟨empty⟩
instance : Inhabited DocumentStore := ⟨empty⟩

def size (s : DocumentStore) : Nat := s.documents.size

def get? (s : DocumentStore) (id : String) : Option Fields := s.documents.get? id

/-- The index of a field; a field that was never stored has an empty one. -/
def index (s : DocumentStore) (field : String) : FieldIndex := (s.indexes.get? field).getD ∅

def value? (s : DocumentStore) (id field : String) : Option Int := (s.index field).value? id

def unindex (indexes : OrderedMap FieldIndex) (id : String) (fields : List String) :
    OrderedMap FieldIndex :=
  fields.foldl
    (fun indexes field => indexes.insert field (((indexes.get? field).getD ∅).remove id)) indexes

def addToIndexes (indexes : OrderedMap FieldIndex) (id : String) (fields : List (String × Int)) :
    OrderedMap FieldIndex :=
  fields.foldl
    (fun indexes entry => indexes.insert entry.1 (((indexes.get? entry.1).getD ∅).add id entry.2))
    indexes

def delete (s : DocumentStore) (id : String) : DocumentStore :=
  match s.documents.get? id with
  | none => s
  | some fields => ⟨s.documents.erase id, unindex s.indexes id fields.keys⟩

def put (s : DocumentStore) (id : String) (fields : Fields) : DocumentStore :=
  let s := s.delete id
  ⟨s.documents.insert id fields, addToIndexes s.indexes id fields.entries⟩

/-! ## Search -/

def intersection (ids others : List String) : List String := ids.filter others.contains

def union (ids others : List String) : List String :=
  ids ++ others.filter fun id => !ids.contains id

section

variable {β : Type}

mutual

/-- The documents that a predicate finds, each once. -/
def candidates (s : DocumentStore) : Predicate β → List String
  | .range field w _ => (s.index field).range w.lower w.upper w.includeLower w.includeUpper
  | .exact field value _ => (s.index field).exact value
  | .boolean clauses _ =>
    if clauses.any fun clause => clause.1 = .must then (s.inAll clauses).getD []
    else s.inAny clauses

/-- The documents that all required clauses find, if there are such clauses. -/
def inAll (s : DocumentStore) : List (Occur × Predicate β) → Option (List String)
  | [] => none
  | (.should, _) :: rest => s.inAll rest
  | (.must, p) :: rest =>
    match s.inAll rest with
    | none => some (s.candidates p)
    | some ids => some (intersection (s.candidates p) ids)

def inAny (s : DocumentStore) : List (Occur × Predicate β) → List String
  | [] => []
  | (.must, _) :: rest => s.inAny rest
  | (.should, p) :: rest => union (s.candidates p) (s.inAny rest)

end

end

/-- The order of hits: the better score first, equal scores by identifier. -/
def Hit.le (a b : Hit) : Bool :=
  b.score.lt a.score || (a.score.eqv b.score && decide (a.id ≤ b.id))

def search (s : DocumentStore) (p : Predicate Binary64) : List Hit :=
  let hits := (s.candidates p).filterMap fun id => do
    let score ← p.score? (← s.get? id)
    return ⟨id, score⟩
  hits.mergeSort Hit.le

end DocumentStore

end Bitemporal
