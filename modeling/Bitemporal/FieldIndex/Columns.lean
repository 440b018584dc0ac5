import Bitemporal.FieldIndex
import Bitemporal.OrderedMap

/-!
# Field indexes in columns

A field index as it is laid out: the values in one column, in ascending order, the identifiers of
their documents beside them in another, and a map that leads back from identifiers to values. Places
in the columns are found by halving. The entry of an identifier is looked for among the values that
equal its own.
-/

namespace Bitemporal

structure FieldColumns where
  values : List Int
  ids : List String
  byId : OrderedMap Int

namespace FieldColumns

def empty : FieldColumns := ⟨[], [], ∅⟩

instance : EmptyCollection FieldColumns := ⟨empty⟩
instance : Inhabited FieldColumns := ⟨empty⟩

def size (c : FieldColumns) : Nat := c.values.length

/-- Halves a stretch of values until nothing is left of it but the place that the values which stand
before reach up to. -/
def bisect (before : Int → Bool) (values : List Int) (low high : Nat) : Nat :=
  if low < high then
    let middle := (low + high) / 2
    if values[middle]?.any before then bisect before values (middle + 1) high
    else bisect before values low middle
  else low
termination_by high - low

/-- The place in front of all values that are not smaller. -/
def leftCut (values : List Int) (value : Int) : Nat :=
  bisect (fun v => v < value) values 0 values.length

/-- The place behind all values that are not larger. -/
def rightCut (values : List Int) (value : Int) : Nat :=
  bisect (fun v => v ≤ value) values 0 values.length

def remove (c : FieldColumns) (id : String) : FieldColumns :=
  match c.byId.get? id with
  | none => c
  | some value =>
    let byId := c.byId.erase id
    let low := leftCut c.values value
    let equals := List.range' low (rightCut c.values value - low)
    match equals.find? fun i => c.ids[i]? = some id with
    | some i => ⟨c.values.eraseIdx i, c.ids.eraseIdx i, byId⟩
    | none => ⟨c.values, c.ids, byId⟩

def add (c : FieldColumns) (id : String) (value : Int) : FieldColumns :=
  let others := if c.byId.contains id then c.remove id else c
  let i := rightCut others.values value
  ⟨others.values.insertIdx i value, others.ids.insertIdx i id, others.byId.insert id value⟩

def value? (c : FieldColumns) (id : String) : Option Int := c.byId.get? id

/-- The identifiers whose values lie between two bounds: the stretch from the cut at the lower bound
up to the cut at the upper one, of which nothing is left where the cuts stand the other way round. -/
def range (c : FieldColumns) (lower upper : Int) (includeLower includeUpper : Bool) : List String :=
  let low := if includeLower then leftCut c.values lower else rightCut c.values lower
  let high := if includeUpper then rightCut c.values upper else leftCut c.values upper
  (c.ids.take high).drop low

def exact (c : FieldColumns) (value : Int) : List String := c.range value value true true

end FieldColumns

end Bitemporal
