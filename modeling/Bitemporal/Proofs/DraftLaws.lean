import Bitemporal.Predicate.Draft
import Bitemporal.Proofs.PredicateLaws

/-!
# Drafts without foreign parts

Where every part of a draft is a predicate, the draft is tested and scored as the predicate is. No
part of it fails then, so it makes no difference which parts are not looked at.
-/

namespace Bitemporal.Draft

variable {β : Type} {doc : Fields} {d : Draft β} {p : Predicate β}
  {clauses : List (Occur × Draft β)} {ps : List (Occur × Predicate β)}

theorem clauses?_cons {occur : Occur} :
    clauses? ((occur, d) :: clauses) = some ps ↔
      ∃ p rest, d.predicate? = some p ∧ clauses? clauses = some rest ∧ (occur, p) :: rest = ps := by
  simp [clauses?, Option.bind_eq_some_iff]

theorem predicate?_boolean {b : β} :
    predicate? (boolean clauses b) = some p ↔
      ∃ ps, clauses? clauses = some ps ∧ .boolean ps b = p := by
  simp [predicate?]

theorem hasMust_eq (h : clauses? clauses = some ps) :
    hasMust clauses = ps.any fun clause => clause.1 = .must := by
  induction clauses generalizing ps with
  | nil =>
    obtain rfl := Option.some.inj h
    rfl
  | cons clause clauses ih =>
    obtain ⟨p, rest, -, hrest, rfl⟩ := clauses?_cons.mp h
    rw [hasMust, List.any_cons, List.any_cons, ← ih hrest, hasMust]

-- ---------------------------------------------------------------------------
-- Tests
-- ---------------------------------------------------------------------------

mutual

theorem isMatch_eq : (d : Draft β) → {p : Predicate β} → d.predicate? = some p →
    d.isMatch doc = .ok (p.isMatch doc)
  | range .., _, rfl => by simp [isMatch, Predicate.isMatch]
  | exact .., _, rfl => by simp [isMatch, Predicate.isMatch]
  | boolean clauses b, p, h => by
    obtain ⟨ps, hps, rfl⟩ := predicate?_boolean.mp h
    rw [isMatch, Predicate.isMatch, hasMust_eq hps]
    split
    · exact allMatch_eq clauses hps
    · exact anyMatch_eq clauses hps

theorem allMatch_eq {occur : Occur} : (clauses : List (Occur × Draft β)) →
    {ps : List (Occur × Predicate β)} → clauses? clauses = some ps →
      allMatch doc occur clauses = .ok (Predicate.allMatch doc occur ps)
  | [], _, rfl => by simp [allMatch, Predicate.allMatch]
  | (o, d) :: clauses, ps, h => by
    obtain ⟨p, rest, hp, hrest, rfl⟩ := clauses?_cons.mp h
    rw [allMatch, Predicate.allMatch, isMatch_eq d hp, allMatch_eq clauses hrest]
    by_cases ho : o = occur <;> cases hmatch : p.isMatch doc <;> simp [ho]

theorem anyMatch_eq {occur : Occur} : (clauses : List (Occur × Draft β)) →
    {ps : List (Occur × Predicate β)} → clauses? clauses = some ps →
      anyMatch doc occur clauses = .ok (Predicate.anyMatch doc occur ps)
  | [], _, rfl => by simp [anyMatch, Predicate.anyMatch]
  | (o, d) :: clauses, ps, h => by
    obtain ⟨p, rest, hp, hrest, rfl⟩ := clauses?_cons.mp h
    rw [anyMatch, Predicate.anyMatch, isMatch_eq d hp, anyMatch_eq clauses hrest]
    by_cases ho : o = occur <;> cases hmatch : p.isMatch doc <;> simp [ho]

end

-- ---------------------------------------------------------------------------
-- Scores
-- ---------------------------------------------------------------------------

variable [Add β] [Mul β] [Zero β]

mutual

theorem score?_eq : (d : Draft β) → {p : Predicate β} → d.predicate? = some p →
    d.score? doc = .ok (p.score? doc)
  | range .., _, rfl => by rw [score?, Predicate.score?, Predicate.isMatch]
  | exact .., _, rfl => by rw [score?, Predicate.score?, Predicate.isMatch]
  | boolean clauses b, p, h => by
    obtain ⟨ps, hps, rfl⟩ := predicate?_boolean.mp h
    rw [score?, Predicate.score?, isMatch_eq _ h, totalScore_eq clauses hps]
    cases Predicate.isMatch doc (.boolean ps b) <;> rfl

theorem totalScore_eq : (clauses : List (Occur × Draft β)) →
    {ps : List (Occur × Predicate β)} → {total : β} → clauses? clauses = some ps →
      totalScore doc total clauses = .ok (Predicate.totalScore doc total ps)
  | [], _, _, rfl => by simp [totalScore, Predicate.totalScore]
  | (_, d) :: clauses, ps, total, h => by
    obtain ⟨p, rest, hp, hrest, rfl⟩ := clauses?_cons.mp h
    rw [totalScore, Predicate.totalScore, score?_eq d hp]
    cases p.score? doc <;> exact totalScore_eq clauses hrest

end

end Bitemporal.Draft
