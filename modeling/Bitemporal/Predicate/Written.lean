import Bitemporal.Number.Binary64
import Bitemporal.Predicate

/-!
# Predicates as values

The form in which a predicate is shown: an object that names its kind and holds its parts.
-/

namespace Bitemporal.Predicate

/-- The clauses of one part, under its name; a part without clauses is left out. -/
def part (occur : Occur) (written : List (Occur × Value)) : List (String × Value) :=
  match (written.filter fun clause => clause.1 = occur).map Prod.snd with
  | [] => []
  | clauses => [(occur.name, .list clauses)]

mutual

def written : Predicate Binary64 → Value
  | range field w boost => .object [
      ("type", .text "range"), ("field", .text field), ("lower", .int w.lower),
      ("upper", .int w.upper), ("include_lower", .bool w.includeLower),
      ("include_upper", .bool w.includeUpper), ("boost", .float boost)]
  | exact field value boost => .object [
      ("type", .text "exact"), ("field", .text field), ("value", .int value),
      ("boost", .float boost)]
  | boolean clauses boost =>
    let written := writtenClauses clauses
    .object (("type", .text "boolean") :: part .must written ++ part .should written ++
      [("boost", .float boost)])

def writtenClauses : List (Occur × Predicate Binary64) → List (Occur × Value)
  | [] => []
  | (occur, p) :: rest => (occur, written p) :: writtenClauses rest

end

end Bitemporal.Predicate
