import Bitemporal.Number.Binary64
import Bitemporal.Predicate

/-!
# Query rectangles

A query asks for the records whose interval meets a window of valid time and a window of
transaction time. `Rectangle.predicate` spells the question out over the stored fields: one
alternative for each partition that can hold an answer.

Where a partition stores both ends of an axis, an interval meets a window if either end lies in
the window or the interval covers it. Where the end is open, only the start is tested. In the
third partition, whose valid end is open, the transaction window starts no earlier than the valid
window does.
-/

namespace Bitemporal

/-- A window of valid time and a window of transaction time, both inclusive. -/
abbrev Rectangle := Ends Instant

namespace Rectangle

def everything : Rectangle := ⟨.earliest, .now, .earliest, .now⟩

def fullValidWindow (r : Rectangle) : Bool := r.validFrom.isEarliest && r.validTo.isNow

/-- The partitions that can hold an answer. An empty list means that the mark of current records
answers the query alone. -/
def partitions (r : Rectangle) : List Partition :=
  let reachesValidStart := r.validFrom.millis ≤ r.transactionTo.millis
  if !r.transactionFrom.isNow then
    if reachesValidStart then [.t1, .t2, .t3, .t4] else [.t2, .t4]
  else if r.fullValidWindow then []
  else if reachesValidStart then [.t1, .t2]
  else [.t2]

section

variable {β : Type} [Add β] [Mul β] [Zero β] [One β]

def between (field : String) (lower upper : Nat) : Predicate β :=
  .range field ⟨lower, upper, true, true⟩ 1

def overlap (startField stopField : String) (lower upper : Nat) : Predicate β :=
  .anyOf [between startField lower upper, between stopField lower upper,
    .allOf [between startField 0 lower, between stopField upper nowMillis]]

def alternative (r : Rectangle) (field : String) (p : Partition) : Predicate β :=
  let name := p.fieldName field
  let validStarted := between (name .validFrom) 0 r.validTo.millis
  let transactionStarted := between (name .transactionFrom) 0 r.transactionTo.millis
  let validOverlap :=
    overlap (name .validFrom) (name .validTo) r.validFrom.millis r.validTo.millis
  let transactionOverlap (lower : Nat) :=
    overlap (name .transactionFrom) (name .transactionTo) lower r.transactionTo.millis
  match p with
  | .t1 => .allOf [validStarted, transactionStarted]
  | .t2 => .allOf [validOverlap, transactionStarted]
  | .t3 =>
    .allOf [validStarted, transactionOverlap (max r.transactionFrom.millis r.validFrom.millis)]
  | .t4 => .allOf [validOverlap, transactionOverlap r.transactionFrom.millis]

/-- The predicate that a rectangle stands for. The boost applies to the whole. -/
def predicate (r : Rectangle) (field : String) (boost : β) : Predicate β :=
  match r.partitions with
  | [] => .exact (Partition.flagName field) 1 boost
  | partitions => (Predicate.anyOf (partitions.map (r.alternative field))).withBoost boost

end

def log (r : Rectangle) (field : String) : List LogEntry :=
  match r.partitions with
  | [] => [⟨.debug, "Query on '" ++ field ++ "' reduced to T1UT2 flag lookup"⟩]
  | partitions => [⟨.debug, "Query on '" ++ field ++ "' spans partitions " ++
      ",".intercalate (partitions.map Partition.name)⟩]

end Rectangle

end Bitemporal
