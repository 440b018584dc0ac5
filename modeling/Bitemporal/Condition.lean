import Bitemporal.Json.Reader
import Bitemporal.Json.Writer
import Bitemporal.Rectangle
import Bitemporal.Schema

/-!
# Conditions

A condition is a search request in the form in which it is exchanged. A bitemporal condition gives
a window for each of the two times, a range condition a window of integers. What is not set is left
out when a condition is written. A bitemporal condition is written without its type, which is the
default when a condition is read.
-/

namespace Bitemporal

structure BitemporalCondition where
  field : String
  boost : Option Binary64
  bounds : Ends (Option Bound)
  deriving DecidableEq

structure RangeCondition where
  field : String
  boost : Option Binary64
  lower : Option Int
  upper : Option Int
  includeLower : Bool
  includeUpper : Bool
  deriving DecidableEq

inductive Condition where
  | bitemporal (c : BitemporalCondition)
  | range (c : RangeCondition)
  deriving DecidableEq

namespace BitemporalCondition

def shownOption (v : Option Value) : String := (v.map Value.plain).getD "None"

def shown (c : BitemporalCondition) : String :=
  let bounds := Axis.all.map fun axis =>
    axis.stored ++ "=" ++ shownOption ((c.bounds.get axis).map Bound.value)
  "BitemporalCondition\x7b" ++ Value.commaSeparated
    (("boost=" ++ shownOption (c.boost.map .float)) :: ("field=" ++ c.field) :: bounds) ++ "\x7d"

/-- The rectangle of a bitemporal condition, with its bounds read as a mapper reads columns. A
bound that is not set leaves its side open. -/
def rectangle (c : BitemporalCondition) (m : BitemporalMapper) : Except Error Rectangle :=
  Ends.forAll? fun axis =>
    match c.bounds.get axis with
    | none => .ok (Rectangle.everything.get axis)
    | some bound => (m.readInstant bound.value).map fun i => i.getD (Rectangle.everything.get axis)

end BitemporalCondition

namespace RangeCondition

def longMin : Int := -9223372036854775808

def longMax : Int := 9223372036854775807

def window (c : RangeCondition) : Window :=
  ⟨c.lower.getD longMin, c.upper.getD longMax, c.includeLower, c.includeUpper⟩

end RangeCondition

namespace Condition

def bitemporalTag : String := "bitemporal"

def rangeTag : String := "range"

/-! ## Reading -/

def readField (v : Value) : Checked String := do
  let s ← Checked.text v
  if Text.allBlank s then Checked.fault .blankFieldName else return s

def bitemporalOfMembers (members : List (String × Value)) : Checked BitemporalCondition :=
  let bound (axis : Axis) (_ : Unit) : Checked (Option Bound) :=
    Checked.opt members axis.column Bound.ofValue
  let head := Checked.apply (Checked.apply
    ((Checked.tag members "type" bitemporalTag).map fun _ field boost a b c d =>
      BitemporalCondition.mk field boost ⟨a, b, c, d⟩)
    fun _ => Checked.required members "field" readField)
    fun _ => Checked.opt members "boost" Checked.float
  let condition := Checked.apply (Checked.apply (Checked.apply (Checked.apply head
    (bound .validFrom)) (bound .validTo)) (bound .transactionFrom)) (bound .transactionTo)
  Checked.named members (Checked.apply (condition.map fun c _ => c) fun _ =>
    Checked.closed members (["type", "field", "boost"] ++ Axis.all.map Axis.column))

def rangeOfMembers (members : List (String × Value)) : Checked RangeCondition :=
  let head := Checked.apply (Checked.apply
    ((Checked.tag members "type" rangeTag).map fun _ => RangeCondition.mk)
    fun _ => Checked.required members "field" readField)
    fun _ => Checked.opt members "boost" Checked.float
  let condition := Checked.apply (Checked.apply (Checked.apply (Checked.apply head
    fun _ => Checked.opt members "lower" Checked.int)
    fun _ => Checked.opt members "upper" Checked.int)
    fun _ => Checked.defaulted members "include_lower" true Checked.bool)
    fun _ => Checked.defaulted members "include_upper" true Checked.bool
  Checked.named members (Checked.apply (condition.map fun c _ => c) fun _ =>
    Checked.closed members
      ["type", "field", "boost", "lower", "upper", "include_lower", "include_upper"])

/-- The condition with the given members; without a type member it is bitemporal. -/
def ofMembers (members : List (String × Value)) : Checked Condition :=
  match Checked.member? members "type" with
  | none => ((bitemporalOfMembers members).under bitemporalTag).map bitemporal
  | some (.text tag) =>
    if tag = bitemporalTag then ((bitemporalOfMembers members).under tag).map bitemporal
    else if tag = rangeTag then ((rangeOfMembers members).under tag).map range
    else Checked.fault (.unknownTag (Text.withoutHalves tag) [bitemporalTag, rangeTag])
  | some v => Checked.fault (.unknownTag v.plain [bitemporalTag, rangeTag])

def ofValue : Value → Except Error Condition
  | .object members =>
    match ofMembers members with
    | .ok c => .ok c
    | .error issues => .error (.invalid issues)
  | v => .error (.conditionNotObject v.kind)

def ofJson (text : String) : Except Error Condition :=
  match Json.read text with
  | .ok v => ofValue v
  | .error .malformed => .error .jsonSyntax
  | .error .oversizedNumeral => .error .numeralNotReadable
  | .error .tooDeep => .error .tooDeep

/-! ## Writing -/

def setMember (name : String) (v : Option Value) : List (String × Value) :=
  match v with
  | some v => [(name, v)]
  | none => []

def members : Condition → List (String × Value)
  | bitemporal c =>
    ("field", .text c.field) :: setMember "boost" (c.boost.map .float) ++
      Axis.all.flatMap fun axis => setMember axis.column ((c.bounds.get axis).map Bound.value)
  | range c =>
    ("type", .text rangeTag) :: ("field", .text c.field) ::
      setMember "boost" (c.boost.map .float) ++ setMember "lower" (c.lower.map .int) ++
      setMember "upper" (c.upper.map .int) ++
      [("include_lower", .bool c.includeLower), ("include_upper", .bool c.includeUpper)]

def toJson (c : Condition) : String := Json.write Json.compact (.object c.members)

/-! ## Meaning -/

def field : Condition → String
  | bitemporal c => c.field
  | range c => c.field

def boost : Condition → Option Binary64
  | bitemporal c => c.boost
  | range c => c.boost

def effectiveBoost (c : Condition) (default : Binary64) : Binary64 := c.boost.getD default

def sameBoost : Option Binary64 → Option Binary64 → Bool
  | none, none => true
  | some x, some y => x.eqv y
  | _, _ => false

/-- Equality of conditions, with boosts compared as numbers. -/
def same : Condition → Condition → Bool
  | bitemporal c, bitemporal d =>
    c.field = d.field && sameBoost c.boost d.boost && c.bounds = d.bounds
  | range c, range d =>
    c.field = d.field && sameBoost c.boost d.boost && c.lower = d.lower && c.upper = d.upper &&
      c.includeLower = d.includeLower && c.includeUpper = d.includeUpper
  | _, _ => false

def query (c : Condition) (schema : Schema) (defaultBoost : Binary64) :
    Except Error (Predicate Binary64) :=
  match c with
  | bitemporal b => do
    let m ← schema.bitemporalMapper b.field
    let r ← b.rectangle m
    return r.predicate m.field (c.effectiveBoost defaultBoost)
  | range b => do
    let m ← schema.longMapper b.field
    return .range m.field b.window (c.effectiveBoost defaultBoost)

def log (c : Condition) (schema : Schema) : List LogEntry :=
  match c with
  | bitemporal b =>
    match schema.bitemporalMapper b.field with
    | .error _ => []
    | .ok m =>
      match b.rectangle m with
      | .error _ => []
      | .ok r => r.log m.field
  | range _ => []

end Condition

end Bitemporal
