/-!
# Field indexes

The values that documents have for one stored field, in ascending order. An identifier stands in
an index at most once. Since the order is kept, the documents of a range of values are one stretch
of the index.
-/

namespace Bitemporal

/-- Values with the identifiers of their documents, in ascending order of values. -/
structure FieldIndex where
  entries : List (Int × String)

namespace FieldIndex

def empty : FieldIndex := ⟨[]⟩

instance : EmptyCollection FieldIndex := ⟨empty⟩
instance : Inhabited FieldIndex := ⟨empty⟩

def size (ix : FieldIndex) : Nat := ix.entries.length

/-- Puts an entry behind all entries whose values are not larger. -/
def place (value : Int) (id : String) : List (Int × String) → List (Int × String)
  | [] => [(value, id)]
  | (v, i) :: rest => if value < v then (value, id) :: (v, i) :: rest else (v, i) :: place value id rest

def remove (ix : FieldIndex) (id : String) : FieldIndex :=
  ⟨ix.entries.filter fun entry => entry.2 ≠ id⟩

def add (ix : FieldIndex) (id : String) (value : Int) : FieldIndex :=
  ⟨place value id (ix.remove id).entries⟩

def value? (ix : FieldIndex) (id : String) : Option Int :=
  (ix.entries.find? fun entry => entry.2 = id).map Prod.fst

def below (lower : Int) (included : Bool) (value : Int) : Bool :=
  if included then value < lower else value ≤ lower

def notAbove (upper : Int) (included : Bool) (value : Int) : Bool :=
  if included then value ≤ upper else value < upper

/-- The identifiers whose values lie between two bounds: the entries from the first that is not
below the range up to the last that is not above it. -/
def range (ix : FieldIndex) (lower upper : Int) (includeLower includeUpper : Bool) : List String :=
  ((ix.entries.dropWhile fun entry => below lower includeLower entry.1).takeWhile
    fun entry => notAbove upper includeUpper entry.1).map Prod.snd

def exact (ix : FieldIndex) (value : Int) : List String := ix.range value value true true

end FieldIndex

end Bitemporal
