/-!
# The four ends of a bitemporal interval

A record is valid from one instant to another, and was current in the store from one instant to
another. Each of the four ends has a column name and a name among stored fields.
-/

namespace Bitemporal

inductive Axis where
  | validFrom
  | validTo
  | transactionFrom
  | transactionTo
  deriving DecidableEq, Repr

namespace Axis

def all : List Axis := [validFrom, validTo, transactionFrom, transactionTo]

/-- The name used for columns, condition bounds and messages. -/
def column : Axis → String
  | validFrom => "vt_from"
  | validTo => "vt_to"
  | transactionFrom => "tt_from"
  | transactionTo => "tt_to"

/-- The name used for stored fields. -/
def stored : Axis → String
  | validFrom => "vtFrom"
  | validTo => "vtTo"
  | transactionFrom => "ttFrom"
  | transactionTo => "ttTo"

end Axis

structure Ends (α : Type) where
  validFrom : α
  validTo : α
  transactionFrom : α
  transactionTo : α
  deriving DecidableEq, Repr

namespace Ends

variable {α β : Type}

def get (ends : Ends α) : Axis → α
  | .validFrom => ends.validFrom
  | .validTo => ends.validTo
  | .transactionFrom => ends.transactionFrom
  | .transactionTo => ends.transactionTo

def ofFn (f : Axis → α) : Ends α :=
  ⟨f .validFrom, f .validTo, f .transactionFrom, f .transactionTo⟩

def map (f : α → β) (ends : Ends α) : Ends β := ofFn fun axis => f (ends.get axis)

def toList (ends : Ends α) : List α := Axis.all.map ends.get

@[simp] theorem get_ofFn (f : Axis → α) (axis : Axis) : (ofFn f).get axis = f axis := by
  cases axis <;> rfl

@[simp] theorem get_map (f : α → β) (ends : Ends α) (axis : Axis) :
    (ends.map f).get axis = f (ends.get axis) := get_ofFn _ axis

/-- Fills the ends one after another in axis order; the first failure wins. -/
def forAll? {ε : Type} (f : Axis → Except ε α) : Except ε (Ends α) := do
  let validFrom ← f .validFrom
  let validTo ← f .validTo
  let transactionFrom ← f .transactionFrom
  let transactionTo ← f .transactionTo
  return ⟨validFrom, validTo, transactionFrom, transactionTo⟩

end Ends

end Bitemporal
