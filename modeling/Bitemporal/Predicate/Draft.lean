import Bitemporal.Error
import Bitemporal.Predicate

/-!
# Drafts of predicates

A draft is a predicate as it is handed in: any of its parts may be a value of another kind. Such a
part is an error where it is reached, and only there: clauses are tried in order, and the ones that
no longer matter are not looked at.
-/

namespace Bitemporal

inductive Draft (β : Type) where
  /-- The field has a value in a window. -/
  | range (field : String) (window : Window) (boost : β)
  /-- The field has one value. -/
  | exact (field : String) (value : Int) (boost : β)
  /-- A combination of clauses. -/
  | boolean (clauses : List (Occur × Draft β)) (boost : β)
  /-- A value of another kind. -/
  | foreign (kind : String)

namespace Draft

variable {β : Type}

def isForeign : Draft β → Bool
  | foreign _ => true
  | _ => false

mutual

/-- The predicate that a draft without foreign parts is. -/
def predicate? : Draft β → Option (Predicate β)
  | range field window b => some (.range field window b)
  | exact field value b => some (.exact field value b)
  | boolean clauses b => (clauses? clauses).map fun clauses => .boolean clauses b
  | foreign _ => none

def clauses? : List (Occur × Draft β) → Option (List (Occur × Predicate β))
  | [] => some []
  | (occur, d) :: rest => do
    let p ← predicate? d
    let ps ← clauses? rest
    return (occur, p) :: ps

end

def hasMust (clauses : List (Occur × Draft β)) : Bool :=
  clauses.any fun clause => clause.1 = .must

mutual

def isMatch (doc : Fields) : Draft β → Except Error Bool
  | range field window _ => .ok ((doc.get? field).any window.admits)
  | exact field value _ => .ok (doc.get? field == some value)
  | boolean clauses _ =>
    if hasMust clauses then allMatch doc .must clauses else anyMatch doc .should clauses
  | foreign _ => .error .foreignPart

/-- Whether all clauses of a part pass; the first that does not is the last to be tried. -/
def allMatch (doc : Fields) (occur : Occur) : List (Occur × Draft β) → Except Error Bool
  | [] => .ok true
  | (o, d) :: rest =>
    if o = occur then
      match isMatch doc d with
      | .ok true => allMatch doc occur rest
      | result => result
    else allMatch doc occur rest

/-- Whether any clause of a part passes; the first that does is the last to be tried. -/
def anyMatch (doc : Fields) (occur : Occur) : List (Occur × Draft β) → Except Error Bool
  | [] => .ok false
  | (o, d) :: rest =>
    if o = occur then
      match isMatch doc d with
      | .ok false => anyMatch doc occur rest
      | result => result
    else anyMatch doc occur rest

end

variable [Add β] [Mul β] [Zero β]

mutual

def score? (doc : Fields) : Draft β → Except Error (Option β)
  | range field window b => .ok (if (doc.get? field).any window.admits then some b else none)
  | exact field value b => .ok (if doc.get? field == some value then some b else none)
  | boolean clauses b =>
    match isMatch doc (boolean clauses b) with
    | .ok true => (totalScore doc 0 clauses).map fun total => some (b * total)
    | .ok false => .ok none
    | .error e => .error e
  | foreign _ => .error .foreignPart

def totalScore (doc : Fields) (total : β) : List (Occur × Draft β) → Except Error β
  | [] => .ok total
  | (_, d) :: rest =>
    match score? doc d with
    | .ok (some s) => totalScore doc (total + s) rest
    | .ok none => totalScore doc total rest
    | .error e => .error e

end

end Draft

end Bitemporal
