import Bitemporal.Log
import Bitemporal.OrderedMap
import Bitemporal.Partition

/-!
# Mappers

A mapper turns the columns of a record into stored fields. A bitemporal mapper reads the four ends
of an interval, chooses the record's partition and stores the ends of that partition together with
a mark of current records. A long mapper stores one integer column under its field.
-/

namespace Bitemporal

abbrev Record := OrderedMap Value

abbrev Fields := OrderedMap Int

namespace Record

def column (record : Record) (name : String) : Value := (record.get? name).getD .null

end Record

/-! ## Bitemporal mappers -/

structure BitemporalMapper where
  field : String
  columns : Ends String
  format : InstantFormat
  /-- The column value that stands for an open end. -/
  now : Nat
  now_le : now ≤ nowMillis

structure StoredInterval where
  partition : Partition
  fields : Fields
  flagField : String

namespace StoredInterval

def openFlag (s : StoredInterval) : Int := (s.fields.get? s.flagField).getD 0

end StoredInterval

namespace BitemporalMapper

def requireColumn (axis : Axis) (name : Option String) : Except Error String :=
  match name with
  | some s => if Text.allBlank s then .error (.configuration (.columnRequired axis)) else .ok s
  | none => .error (.configuration (.columnRequired axis))

def requireField (name : Option String) : Except Error String :=
  match name with
  | some s => if Text.allBlank s then .error (.configuration .fieldRequired) else .ok s
  | none => .error (.configuration .fieldRequired)

/-- A millisecond count that can stand for an open end. -/
structure NowValue where
  millis : Nat
  le_now : millis ≤ nowMillis

/-- The millisecond count that a value gives for an open end; without a value, the largest. -/
def resolveNow (format : InstantFormat) (value : Value) : Except Error NowValue :=
  match format.read value with
  | .ok none => .ok ⟨nowMillis, Nat.le_refl _⟩
  | .ok (some millis) =>
    if h : 0 ≤ millis ∧ millis.toNat ≤ nowMillis then .ok ⟨millis.toNat, h.2⟩
    else .error (.showing value (.configuration (.nowOutOfRange value)))
  | .error (.input cause) => .error (.showing value (.configuration (.unreadableNow value cause)))
  | .error e => .error e

def make (field : Option String) (columns : Ends (Option String)) (pattern : Option String)
    (now : Value) : Except Error BitemporalMapper := do
  let columns ← Ends.forAll? fun axis => requireColumn axis (columns.get axis)
  let field ← requireField field
  let format := InstantFormat.ofPattern pattern
  let now ← resolveNow format now
  return ⟨field, columns, format, now.millis, now.le_now⟩

/-- The mapper of a field whose columns have the names of the ends and whose patterns and open end
are the default ones. -/
def standard (field : String) : Except Error BitemporalMapper :=
  make (some field) (Ends.ofFn fun axis => some axis.column) none .null

def flagField (m : BitemporalMapper) : String := Partition.flagName m.field

/-- The instant of a millisecond count; the mapper's own open end becomes the general one. -/
def instantOfMillis (m : BitemporalMapper) (millis : Int) : Except InputError Instant :=
  if m.now < millis then .error (.exceedsNow m.field millis m.now)
  else if millis = m.now then .ok Instant.now
  else Instant.ofMillis millis

def readInstant (m : BitemporalMapper) (value : Value) : Except Error (Option Instant) :=
  match m.format.read value with
  | .error e => .error e
  | .ok none => .ok none
  | .ok (some millis) =>
    match m.instantOfMillis millis with
    | .ok i => .ok (some i)
    | .error e => .error (.input e)

def readEnds (m : BitemporalMapper) (record : Record) : Except Error (Ends (Option Instant)) :=
  Ends.forAll? fun axis => m.readInstant (record.column (m.columns.get axis))

def complete (ends : Ends (Option Instant)) : Except InputError (Ends Instant) :=
  Ends.forAll? fun axis =>
    match ends.get axis with
    | some i => .ok i
    | none => .error (.missingEnd axis)

def checkOrder (m : BitemporalMapper) (ends : Ends Instant) (start stop : Axis) :
    Except Error Unit :=
  let i := ends.get start
  let j := ends.get stop
  if i.after j then do
    let startText ← i.write m.format
    let stopText ← j.write m.format
    throw (.input (.inverted start stop i.millis j.millis startText stopText))
  else .ok ()

def validate (m : BitemporalMapper) (ends : Ends (Option Instant)) :
    Except Error (Ends Instant) := do
  let ends ← (complete ends).mapError .input
  m.checkOrder ends .validFrom .validTo
  m.checkOrder ends .transactionFrom .transactionTo
  return ends

def entries (field : String) (p : Partition) (ends : Ends Instant) : List (String × Int) :=
  (p.axes.map fun axis => (p.fieldName field axis, ((ends.get axis).millis : Int))) ++
    [(Partition.flagName field, if p.transactionOpen then 1 else 0)]

def stored (m : BitemporalMapper) (ends : Ends Instant) : StoredInterval :=
  let p := Partition.classify ends.validTo ends.transactionTo
  ⟨p, OrderedMap.ofList (entries m.field p ends), m.flagField⟩

/-- What is stored of a record: nothing if all four ends are absent. -/
def store (m : BitemporalMapper) (record : Record) : Except Error (Option StoredInterval) := do
  let ends ← m.readEnds record
  if ends.toList.all Option.isNone then return none
  else return some (m.stored (← m.validate ends))

def documentFields (m : BitemporalMapper) (record : Record) : Except Error Fields :=
  (m.store record).map fun stored => (stored.map StoredInterval.fields).getD ∅

def log (m : BitemporalMapper) (record : Record) : List LogEntry :=
  match m.store record with
  | .ok none => [⟨.debug, "No bitemporal data for field '" ++ m.field ++ "', skipping"⟩]
  | .ok (some stored) => [⟨.debug, "Field '" ++ m.field ++ "' assigned to " ++ stored.partition.name⟩]
  | .error _ => []

def shown (m : BitemporalMapper) : String :=
  let columns := Axis.all.map fun axis => axis.column ++ "=" ++ Text.quoted (m.columns.get axis)
  "BitemporalMapper(" ++ Value.commaSeparated (("field=" ++ Text.quoted m.field) :: columns ++
    ["pattern=" ++ Text.quoted m.format.pattern, "now_value=" ++ Numeral.ofNat m.now]) ++ ")"

end BitemporalMapper

/-! ## Long mappers -/

structure LongMapper where
  field : String
  column : String
  deriving DecidableEq

namespace LongMapper

/-- The mapper of a field with one column, which has the name of the field by default. -/
def make (field column : Option String) : Except Error LongMapper := do
  let column := if column.getD "" = "" then field else column
  let field ← BitemporalMapper.requireField field
  return ⟨field, column.getD field⟩

def readInteger (m : LongMapper) : Value → Except Error (Option Int)
  | .null => .ok none
  | .int n => .ok (some n)
  | .text s =>
    match Numeral.readInt? (Text.trimmed s) with
    | some n => .ok (some n)
    | none => .error (.input (.notInteger m.field m.column (.text s)))
  | v => .error (.showing v (.input (.notInteger m.field m.column v)))

def documentFields (m : LongMapper) (record : Record) : Except Error Fields :=
  (m.readInteger (record.column m.column)).map fun n =>
    match n with
    | some n => OrderedMap.ofList [(m.field, n)]
    | none => ∅

def shown (m : LongMapper) : String :=
  "LongMapper(field=" ++ Text.quoted m.field ++ ", column=" ++ Text.quoted m.column ++ ")"

end LongMapper

/-! ## Either kind -/

inductive Mapper where
  | bitemporal (m : BitemporalMapper)
  | long (m : LongMapper)

structure SortField where
  field : String
  reverse : Bool
  deriving DecidableEq

namespace Mapper

def field : Mapper → String
  | bitemporal m => m.field
  | long m => m.field

def kind : Mapper → String
  | bitemporal _ => "BitemporalMapper"
  | long _ => "LongMapper"

def columns : Mapper → List String
  | bitemporal m => m.columns.toList
  | long m => [m.column]

def documentFields (m : Mapper) (record : Record) : Except Error Fields :=
  match m with
  | bitemporal m => m.documentFields record
  | long m => m.documentFields record

def log (m : Mapper) (record : Record) : List LogEntry :=
  match m with
  | bitemporal m => m.log record
  | long _ => []

/-- The stored field to sort by; bitemporal fields cannot be sorted by. -/
def sortField (m : Mapper) (name : String) (reverse : Bool) : Except Error SortField :=
  match m with
  | bitemporal _ => .error (.sortRefused name)
  | long m => .ok ⟨m.field, reverse⟩

def shown : Mapper → String
  | bitemporal m => m.shown
  | long m => m.shown

end Mapper

end Bitemporal
