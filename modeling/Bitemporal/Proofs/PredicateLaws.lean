import Bitemporal.Predicate

/-!
# What predicates depend on

A predicate passes or fails a document by the fields that it tests, and has a score for exactly
the documents that pass. The combinations `allOf` and `anyOf` are conjunction and disjunction.
-/

namespace Bitemporal

theorem Window.admits_iff {w : Window} {n : Int} :
    w.admits n = true ↔
      (w.lower < n ∨ (w.lower = n ∧ w.includeLower = true)) ∧
        (n < w.upper ∨ (n = w.upper ∧ w.includeUpper = true)) := by
  cases hl : w.includeLower <;> cases hu : w.includeUpper <;> simp [admits, hl, hu] <;> omega

namespace Predicate

variable {β : Type} {doc other : Fields}

theorem allMatch_eq (occur : Occur) (clauses : List (Occur × Predicate β)) :
    allMatch doc occur clauses = (clausesOf occur clauses).all (isMatch doc) := by
  induction clauses with
  | nil => rfl
  | cons clause rest ih =>
    obtain ⟨o, p⟩ := clause
    rw [allMatch, ih]
    by_cases h : o = occur <;> simp [clausesOf, h]

theorem anyMatch_eq (occur : Occur) (clauses : List (Occur × Predicate β)) :
    anyMatch doc occur clauses = (clausesOf occur clauses).any (isMatch doc) := by
  induction clauses with
  | nil => rfl
  | cons clause rest ih =>
    obtain ⟨o, p⟩ := clause
    rw [anyMatch, ih]
    by_cases h : o = occur <;> simp [clausesOf, h]

theorem clausesOf_map (occur : Occur) (parts : List (Predicate β)) :
    clausesOf occur (parts.map fun p => (occur, p)) = parts := by
  induction parts with
  | nil => rfl
  | cons p rest ih => simpa [clausesOf] using ih

@[simp] theorem isMatch_withBoost (b : β) (p : Predicate β) :
    isMatch doc (p.withBoost b) = isMatch doc p := by
  cases p <;> rfl

@[simp] theorem isMatch_anyOf [One β] (parts : List (Predicate β)) :
    isMatch doc (anyOf parts) = parts.any (isMatch doc) := by
  rw [anyOf, isMatch, if_neg (by simp), anyMatch_eq, clausesOf_map]

/-- Without parts nothing passes. -/
@[simp] theorem isMatch_allOf [One β] (p : Predicate β) (parts : List (Predicate β)) :
    isMatch doc (allOf (p :: parts)) = (p :: parts).all (isMatch doc) := by
  rw [allOf, isMatch, if_pos (by simp), allMatch_eq, clausesOf_map]

mutual

/-- Documents that agree on the tested fields pass together. -/
theorem isMatch_congr : (p : Predicate β) →
    (∀ name ∈ p.fields, doc.get? name = other.get? name) → isMatch doc p = isMatch other p
  | range field _ _, h => by simp only [isMatch, h field (List.mem_singleton_self field)]
  | exact field _ _, h => by simp only [isMatch, h field (List.mem_singleton_self field)]
  | boolean clauses _, h => by
    simp only [isMatch, allMatch_congr .must clauses h, anyMatch_congr .should clauses h]

theorem allMatch_congr (occur : Occur) : (clauses : List (Occur × Predicate β)) →
    (∀ name ∈ clauseFields clauses, doc.get? name = other.get? name) →
      allMatch doc occur clauses = allMatch other occur clauses
  | [], _ => rfl
  | (o, p) :: rest, h => by
    simp only [clauseFields, List.mem_append] at h
    rw [allMatch, allMatch, isMatch_congr p fun name hn => h name (.inl hn),
      allMatch_congr occur rest fun name hn => h name (.inr hn)]

theorem anyMatch_congr (occur : Occur) : (clauses : List (Occur × Predicate β)) →
    (∀ name ∈ clauseFields clauses, doc.get? name = other.get? name) →
      anyMatch doc occur clauses = anyMatch other occur clauses
  | [], _ => rfl
  | (o, p) :: rest, h => by
    simp only [clauseFields, List.mem_append] at h
    rw [anyMatch, anyMatch, isMatch_congr p fun name hn => h name (.inl hn),
      anyMatch_congr occur rest fun name hn => h name (.inr hn)]

end

theorem clauseFields_map (occur : Occur) (parts : List (Predicate β)) :
    clauseFields (parts.map fun p => (occur, p)) = parts.flatMap fields := by
  induction parts with
  | nil => rfl
  | cons p rest ih => rw [List.map_cons, clauseFields, ih, List.flatMap_cons]

@[simp] theorem fields_allOf [One β] (parts : List (Predicate β)) :
    (allOf parts).fields = parts.flatMap fields := clauseFields_map .must parts

@[simp] theorem fields_anyOf [One β] (parts : List (Predicate β)) :
    (anyOf parts).fields = parts.flatMap fields := clauseFields_map .should parts

@[simp] theorem fields_withBoost (b : β) (p : Predicate β) : (p.withBoost b).fields = p.fields := by
  cases p <;> rfl

variable [Add β] [Mul β] [Zero β]

/-- A score is given to the documents that pass. -/
theorem score?_isSome (p : Predicate β) : (score? doc p).isSome = isMatch doc p := by
  cases p <;> rw [score?] <;> split <;> simp_all

mutual

theorem score?_congr : (p : Predicate β) →
    (∀ name ∈ p.fields, doc.get? name = other.get? name) → score? doc p = score? other p
  | range field window b, h => by rw [score?, score?, isMatch_congr (range field window b) h]
  | exact field value b, h => by rw [score?, score?, isMatch_congr (exact field value b) h]
  | boolean clauses b, h => by
    rw [score?, score?, isMatch_congr (boolean clauses b) h, totalScore_congr 0 clauses h]

theorem totalScore_congr (total : β) : (clauses : List (Occur × Predicate β)) →
    (∀ name ∈ clauseFields clauses, doc.get? name = other.get? name) →
      totalScore doc total clauses = totalScore other total clauses
  | [], _ => rfl
  | (_, p) :: rest, h => by
    simp only [clauseFields, List.mem_append] at h
    rw [totalScore, totalScore, score?_congr p fun name hn => h name (.inl hn)]
    split <;> exact totalScore_congr _ rest fun name hn => h name (.inr hn)

end

end Predicate

end Bitemporal
