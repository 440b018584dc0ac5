import Bitemporal.Mapper
import Bitemporal.Settings

/-!
# Schemas

A schema maps each field name to one mapper. It is built from mappers or from options, which are
checked as a whole before any mapper is built.
-/

namespace Bitemporal

structure Schema where
  mappers : OrderedMap Mapper

/-! ## Options -/

inductive MapperOptions where
  | bitemporal (columns : Ends (Option String)) (pattern : Option String) (now : Option Bound)
  | long (column : Option String)

namespace MapperOptions

def bitemporalTag : String := "bitemporal"

def longTag : String := "long"

def bitemporalOfMembers (members : List (String × Value)) : Checked MapperOptions :=
  let column (axis : Axis) (_ : Unit) : Checked (Option String) :=
    Checked.opt members axis.column Checked.text
  let columns := Checked.apply (Checked.apply (Checked.apply (Checked.apply
    ((Checked.tag members "type" bitemporalTag).map fun _ => Ends.mk)
    (column .validFrom)) (column .validTo)) (column .transactionFrom)) (column .transactionTo)
  let options := Checked.apply (Checked.apply
    (columns.map bitemporal)
    fun _ => Checked.opt members "pattern" Checked.text)
    fun _ => Checked.opt members "now_value" Bound.ofValue
  Checked.named members (Checked.apply (options.map fun o _ => o) fun _ =>
    Checked.closed members ("type" :: Axis.all.map Axis.column ++ ["pattern", "now_value"]))

def longOfMembers (members : List (String × Value)) : Checked MapperOptions :=
  let options := Checked.apply
    ((Checked.tag members "type" longTag).map fun _ => long)
    fun _ => Checked.opt members "column" Checked.text
  Checked.named members (Checked.apply (options.map fun o _ => o) fun _ =>
    Checked.closed members ["type", "column"])

/-- The options that a value stands for; its type member tells which kind. -/
def ofValue : Value → Checked MapperOptions
  | .object members =>
    match Checked.member? members "type" with
    | none => Checked.fault .noTag
    | some (.text tag) =>
      if tag = bitemporalTag then (bitemporalOfMembers members).under tag
      else if tag = longTag then (longOfMembers members).under tag
      else Checked.fault (.unknownTag (Text.withoutHalves tag) [bitemporalTag, longTag])
    | some v => Checked.fault (.unknownTag v.plain [bitemporalTag, longTag])
  | _ => Checked.fault .notStructure

def ofFields : List (String × Value) → Checked (List (String × MapperOptions))
  | [] => .ok []
  | (name, v) :: rest =>
    Checked.apply
      (((ofValue v).under (Text.withoutHalves name)).map fun o os => (name, o) :: os)
      fun _ => ofFields rest

def nonempty (s : Option String) : Option String := s.filter (· ≠ "")

/-- The mapper of a field. Settings stand in for an absent pattern and an absent open end. -/
def build (o : MapperOptions) (field : String) (settings : Option Settings) :
    Except Error Mapper :=
  match o with
  | bitemporal columns pattern now =>
    let pattern := (nonempty pattern).or (settings.map Settings.datePattern)
    let now := now.or (settings.bind Settings.nowValue)
    (BitemporalMapper.make (some field) columns pattern ((now.map Bound.value).getD .null)).map
      .bitemporal
  | long column => (LongMapper.make (some field) column).map .long

end MapperOptions

/-! ## Schemas -/

namespace Schema

def empty : Schema := ⟨∅⟩

def size (s : Schema) : Nat := s.mappers.size

def fields (s : Schema) : List String := s.mappers.keys

def contains (s : Schema) (field : String) : Bool := s.mappers.contains field

def get? (s : Schema) (field : String) : Option Mapper := s.mappers.get? field

def add (s : Schema) (m : Mapper) : Except Error Schema :=
  if s.contains m.field then .error (.configuration (.alreadyMapped m.field))
  else .ok ⟨s.mappers.insert m.field m⟩

def ofMappers (mappers : List Mapper) : Except Error Schema := mappers.foldlM add empty

def ofOptions (options : Value) (settings : Option Settings) : Except Error Schema :=
  match options with
  | .object members =>
    match MapperOptions.ofFields members with
    | .error issues => .error (.configuration (.invalidOptions issues))
    | .ok fields => do
      let mappers ← fields.mapM fun (name, o) => o.build name settings
      ofMappers mappers
  | _ => .error (.configuration (.invalidOptions [⟨[], .notObject⟩]))

def fieldsMember : String := "fields"

/-- The schema that a document describes. Without options it has no fields. -/
def ofDocument (members : List (String × Value)) (settings : Option Settings) :
    Except Error Schema :=
  ofOptions ((Checked.member? members fieldsMember).getD (.object [])) settings

def log (s : Schema) : List LogEntry :=
  [⟨.info, "Built schema with " ++ Numeral.ofNat s.size ++ " mappers"⟩]

def bitemporalMapper (s : Schema) (field : String) : Except Error BitemporalMapper :=
  match s.get? field with
  | none => .error (.mismatch (.unmapped field))
  | some (.bitemporal m) => .ok m
  | some m => .error (.mismatch (.wrongMapper field "BitemporalMapper" m.kind))

def longMapper (s : Schema) (field : String) : Except Error LongMapper :=
  match s.get? field with
  | none => .error (.mismatch (.unmapped field))
  | some (.long m) => .ok m
  | some m => .error (.mismatch (.wrongMapper field "LongMapper" m.kind))

def resolveSort (s : Schema) (sort : SortField) : Except Error SortField :=
  match s.get? sort.field with
  | none => .error (.mismatch (.unmappedSort sort.field))
  | some m => m.sortField sort.field sort.reverse

def resolveSorts (s : Schema) (sorts : List SortField) : Except Error (List SortField) :=
  sorts.mapM s.resolveSort

/-- The stored fields of a record under a list of mappers, later mappers overwriting. -/
def collect (record : Record) : Fields → List Mapper → Except Error Fields
  | fields, [] => .ok fields
  | fields, m :: rest => do collect record (fields.merge (← m.documentFields record)) rest

def documentFields (s : Schema) (record : Record) : Except Error Fields :=
  collect record ∅ s.mappers.values

/-- What the mappers report of a record, up to the first that rejects it. -/
def collectLog (record : Record) : List Mapper → List LogEntry
  | [] => []
  | m :: rest =>
    m.log record ++
      match m.documentFields record with
      | .ok _ => collectLog record rest
      | .error _ => []

end Schema

end Bitemporal
