import Bitemporal.DocumentStore
import Bitemporal.FieldIndex.Columns
import Bitemporal.Predicate.Draft

/-!
# Document stores in columns

A document store as it is laid out: the documents, and columns for each field that was ever stored.
A document that leaves is taken out of the columns of its fields, and it is an error if one of them
has none. Predicates are answered as they are handed in. Required clauses are looked up until
nothing is left, optional ones always; what is found is scored clause by clause.
-/

namespace Bitemporal

structure ColumnStore where
  documents : OrderedMap Fields
  columns : OrderedMap FieldColumns

namespace ColumnStore

open DocumentStore (intersection union)

def empty : ColumnStore := ⟨∅, ∅⟩

instance : EmptyCollection ColumnStore := ⟨empty⟩
instance : Inhabited ColumnStore := ⟨empty⟩

def size (s : ColumnStore) : Nat := s.documents.size

def get? (s : ColumnStore) (id : String) : Option Fields := s.documents.get? id

def value? (s : ColumnStore) (id field : String) : Option Int :=
  (s.columns.get? field).bind fun c => c.value? id

def unindex (columns : OrderedMap FieldColumns) (id : String) :
    List String → Except Error (OrderedMap FieldColumns)
  | [] => .ok columns
  | field :: rest =>
    match columns.get? field with
    | some c => unindex (columns.insert field (c.remove id)) id rest
    | none => .error (.missingEntry field)

/-- Puts a document into the columns of its fields; a new field gets columns of its own. -/
def addToColumns (columns : OrderedMap FieldColumns) (id : String)
    (fields : List (String × Int)) : OrderedMap FieldColumns :=
  fields.foldl
    (fun columns entry => columns.insert entry.1 (((columns.get? entry.1).getD ∅).add id entry.2))
    columns

def delete (s : ColumnStore) (id : String) : Except Error ColumnStore :=
  match s.documents.get? id with
  | none => .ok s
  | some fields =>
    (unindex s.columns id fields.keys).map fun columns => ⟨s.documents.erase id, columns⟩

def put (s : ColumnStore) (id : String) (fields : Fields) : Except Error ColumnStore :=
  (s.delete id).map fun s =>
    ⟨s.documents.insert id fields, addToColumns s.columns id fields.entries⟩

section

variable {β : Type}

mutual

def candidates (s : ColumnStore) : Draft β → Except Error (List String)
  | .range field w _ => .ok (((s.columns.get? field).map fun c =>
      c.range w.lower w.upper w.includeLower w.includeUpper).getD [])
  | .exact field value _ => .ok (((s.columns.get? field).map fun c => c.exact value).getD [])
  | .boolean clauses _ =>
    if Draft.hasMust clauses then s.inAll none clauses else s.inAny [] clauses
  | .foreign kind => .error (.notPredicate kind)

/-- Those of the documents found so far that all required clauses find. -/
def inAll (s : ColumnStore) (found : Option (List String)) :
    List (Occur × Draft β) → Except Error (List String)
  | [] => .ok (found.getD [])
  | (.should, _) :: rest => s.inAll found rest
  | (.must, d) :: rest =>
    match found with
    | some [] => .ok []
    | found =>
      match s.candidates d with
      | .ok ids => s.inAll (some ((found.map fun found => intersection found ids).getD ids)) rest
      | .error e => .error e

/-- The documents found so far and those that any optional clause finds. -/
def inAny (s : ColumnStore) (found : List String) :
    List (Occur × Draft β) → Except Error (List String)
  | [] => .ok found
  | (.must, _) :: rest => s.inAny found rest
  | (.should, d) :: rest =>
    match s.candidates d with
    | .ok ids => s.inAny (union found ids) rest
    | .error e => .error e

end

end

def hit? (s : ColumnStore) (d : Draft Binary64) (id : String) : Except Error (Option Hit) :=
  match s.documents.get? id with
  | some doc => (d.score? doc).map fun score => score.map fun score => ⟨id, score⟩
  | none => .error (.missingEntry id)

def search (s : ColumnStore) (d : Draft Binary64) : Except Error (List Hit) := do
  let hits ← (← s.candidates d).mapM (s.hit? d)
  return (hits.filterMap id).mergeSort DocumentStore.Hit.le

end ColumnStore

end Bitemporal
