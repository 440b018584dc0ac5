import Bitemporal.Condition
import Bitemporal.DocumentStore

/-!
# Bitemporal indexes

An index takes records in through the mappers of a schema and answers conditions. A record that a
mapper rejects leaves the index as it was.
-/

namespace Bitemporal

structure Index where
  schema : Schema
  store : DocumentStore
  defaultBoost : Binary64

namespace Index

def empty (schema : Schema) (defaultBoost : Binary64) : Index := ⟨schema, ∅, defaultBoost⟩

def creationLog (schema : Schema) : List LogEntry :=
  [⟨.info, "BitemporalIndex created with " ++ Numeral.ofNat schema.size ++ " mappers"⟩]

def size (x : Index) : Nat := x.store.size

def get? (x : Index) (id : String) : Option Fields := x.store.get? id

/-- Takes a record in, in place of the one that may have the same identifier: what is stored of it,
or why it is rejected, and the index afterwards. -/
def insert (x : Index) (id : String) (record : Record) : Except Error Fields × Index :=
  match x.schema.documentFields record with
  | .ok fields => (.ok fields, { x with store := x.store.put id fields })
  | .error e => (.error e, x)

def insertLog (x : Index) (id : String) (record : Record) : List LogEntry :=
  Schema.collectLog record x.schema.mappers.values ++
    match x.schema.documentFields record with
    | .ok fields =>
      [⟨.debug, "Indexed record '" ++ id ++ "' with " ++ Numeral.ofNat fields.size ++ " fields"⟩]
    | .error (.input e) => [⟨.warning, "Rejected record '" ++ id ++ "': " ++ e.message⟩]
    | .error _ => []

def delete (x : Index) (id : String) : Index := { x with store := x.store.delete id }

def query (x : Index) (c : Condition) : Except Error (Predicate Binary64) :=
  c.query x.schema x.defaultBoost

/-- The key of a document under one sort field: documents without a value come last. -/
def sortKey (x : Index) (sort : SortField) (id : String) : Bool × Int :=
  match x.store.value? id sort.field with
  | none => (true, 0)
  | some v => (false, if sort.reverse then -v else v)

def keyLe (a b : Bool × Int) : Bool := (!a.1 && b.1) || (a.1 == b.1 && decide (a.2 ≤ b.2))

/-- Sorts hits by the first sort field, then by the second, and so on; hits that agree on all of
them keep their order. -/
def sortHits (x : Index) (sorts : List SortField) (hits : List Hit) : List Hit :=
  sorts.foldr
    (fun sort hits => hits.mergeSort fun a b => keyLe (x.sortKey sort a.id) (x.sortKey sort b.id))
    hits

/-- The front of a list up to a limit; a negative limit counts from the end. -/
def limited (limit : Option Int) (hits : List Hit) : List Hit :=
  match limit with
  | none => hits
  | some n => if 0 ≤ n then hits.take n.toNat else hits.take (hits.length - n.natAbs)

def search (x : Index) (c : Condition) (sorts : List SortField) (limit : Option Int) :
    Except Error (List Hit) := do
  let sorts ← x.schema.resolveSorts sorts
  let p ← x.query c
  return limited limit (x.sortHits sorts (x.store.search p))

def searchLog (x : Index) (c : Condition) (sorts : List SortField) : List LogEntry :=
  match x.schema.resolveSorts sorts with
  | .ok _ => c.log x.schema
  | .error _ => []

end Index

end Bitemporal
