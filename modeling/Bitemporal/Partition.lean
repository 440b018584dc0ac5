import Bitemporal.Instant

/-!
# Partitions

A record is stored in one of four partitions, chosen by which of its ends are open. A partition
stores only the ends that can differ among its records.
-/

namespace Bitemporal

/-- `t1`: both ends open; `t2`: only the transaction end open; `t3`: only the valid end open;
`t4`: none open. -/
inductive Partition where
  | t1
  | t2
  | t3
  | t4
  deriving DecidableEq, Repr

namespace Partition

def all : List Partition := [t1, t2, t3, t4]

def name : Partition → String
  | t1 => "T1"
  | t2 => "T2"
  | t3 => "T3"
  | t4 => "T4"

def classify (validTo transactionTo : Instant) : Partition :=
  match transactionTo.isNow, validTo.isNow with
  | true, true => t1
  | true, false => t2
  | false, true => t3
  | false, false => t4

def axes : Partition → List Axis
  | t1 => [.validFrom, .transactionFrom]
  | t2 => [.validFrom, .validTo, .transactionFrom]
  | t3 => [.validFrom, .transactionFrom, .transactionTo]
  | t4 => [.validFrom, .validTo, .transactionFrom, .transactionTo]

def transactionOpen : Partition → Bool
  | t1 | t2 => true
  | t3 | t4 => false

def fieldName (field : String) (p : Partition) (axis : Axis) : String :=
  field ++ "." ++ p.name ++ "." ++ axis.stored

def flagName (field : String) : String := field ++ ".T1UT2"

theorem transactionOpen_classify (validTo transactionTo : Instant) :
    (classify validTo transactionTo).transactionOpen = transactionTo.isNow := by
  unfold classify
  cases transactionTo.isNow <;> cases validTo.isNow <;> rfl

theorem mem_axes_classify (validTo transactionTo : Instant) (axis : Axis) :
    axis ∈ (classify validTo transactionTo).axes ↔
      (axis = .validTo → validTo.isNow = false) ∧
        (axis = .transactionTo → transactionTo.isNow = false) := by
  unfold classify
  cases transactionTo.isNow <;> cases validTo.isNow <;> cases axis <;> simp [axes]

end Partition

end Bitemporal
