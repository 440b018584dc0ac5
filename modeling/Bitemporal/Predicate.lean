import Bitemporal.Mapper

/-!
# Predicates on stored fields

A predicate tests the stored fields of a document and scores the documents that pass. Leaves test
one field; inner nodes combine clauses. A node passes if all its required clauses pass, or, when
it has none, if any of its optional clauses does. Its score is its boost times the sum of the
scores of the clauses that pass. Boosts may be of any type with addition and multiplication.
-/

namespace Bitemporal

inductive Occur where
  | must
  | should
  deriving DecidableEq, Repr

namespace Occur

def name : Occur → String
  | must => "must"
  | should => "should"

def ofName? : String → Option Occur
  | "must" => some must
  | "should" => some should
  | _ => none

end Occur

structure Window where
  lower : Int
  upper : Int
  includeLower : Bool := true
  includeUpper : Bool := true
  deriving DecidableEq, Repr

def Window.admits (w : Window) (n : Int) : Bool :=
  !(n < w.lower || (n == w.lower && !w.includeLower)) &&
    !(w.upper < n || (n == w.upper && !w.includeUpper))

inductive Predicate (β : Type) where
  /-- The field has a value in a window. -/
  | range (field : String) (window : Window) (boost : β)
  /-- The field has one value. -/
  | exact (field : String) (value : Int) (boost : β)
  /-- A combination of clauses. -/
  | boolean (clauses : List (Occur × Predicate β)) (boost : β)

namespace Predicate

variable {β : Type}

def boost : Predicate β → β
  | range _ _ b => b
  | exact _ _ b => b
  | boolean _ b => b

def withBoost (b : β) : Predicate β → Predicate β
  | range field window _ => range field window b
  | exact field value _ => exact field value b
  | boolean clauses _ => boolean clauses b

def clausesOf (occur : Occur) (clauses : List (Occur × Predicate β)) : List (Predicate β) :=
  (clauses.filter fun clause => clause.1 = occur).map Prod.snd

mutual

def isMatch (doc : Fields) : Predicate β → Bool
  | range field window _ => (doc.get? field).any window.admits
  | exact field value _ => doc.get? field == some value
  | boolean clauses _ =>
    if clauses.any fun clause => clause.1 = .must then allMatch doc .must clauses
    else anyMatch doc .should clauses

def allMatch (doc : Fields) (occur : Occur) : List (Occur × Predicate β) → Bool
  | [] => true
  | (o, p) :: rest => (o ≠ occur || isMatch doc p) && allMatch doc occur rest

def anyMatch (doc : Fields) (occur : Occur) : List (Occur × Predicate β) → Bool
  | [] => false
  | (o, p) :: rest => (o = occur && isMatch doc p) || anyMatch doc occur rest

end

variable [Add β] [Mul β] [Zero β]

mutual

def score? (doc : Fields) : Predicate β → Option β
  | range field window b => if isMatch doc (range field window b) then some b else none
  | exact field value b => if isMatch doc (exact field value b) then some b else none
  | boolean clauses b =>
    if isMatch doc (boolean clauses b) then some (b * totalScore doc 0 clauses) else none

/-- The scores of the clauses that pass, added to a number one after another. -/
def totalScore (doc : Fields) (total : β) : List (Occur × Predicate β) → β
  | [] => total
  | (_, p) :: rest =>
    match score? doc p with
    | some s => totalScore doc (total + s) rest
    | none => totalScore doc total rest

end

mutual

/-- The fields that a predicate tests, in order and with repetitions. -/
def fields : Predicate β → List String
  | range field _ _ => [field]
  | exact field _ _ => [field]
  | boolean clauses _ => clauseFields clauses

def clauseFields : List (Occur × Predicate β) → List String
  | [] => []
  | (_, p) :: rest => fields p ++ clauseFields rest

end

def allOf [One β] (parts : List (Predicate β)) : Predicate β :=
  boolean (parts.map fun p => (.must, p)) 1

def anyOf [One β] (parts : List (Predicate β)) : Predicate β :=
  boolean (parts.map fun p => (.should, p)) 1

end Predicate

end Bitemporal
