import Mathlib.Algebra.BigOperators.Group.List.Basic
import Mathlib.Algebra.Order.Ring.Rat
import Mathlib.Data.List.Forall2
import Mathlib.Data.Nat.Cast.Order.Ring
import Mathlib.Tactic.NormNum
import Bitemporal.Proofs.RectangleLaws
import Bitemporal.Proofs.StandardMapper

/-!
# How rectangles score

An overlap is asked for in three ways, and an interval with an end on a bound of the window can pass
several of them. The scores of the ways that pass are added up, so a match has a weight from 1 to 8.
Only the alternative of the interval's own partition counts: the others find nothing under their
names.

Weights are small enough to be added without rounding, in an ordered ring and in double precision
alike (`Tallies`). The boost is the one factor that is not 1.
-/

namespace Bitemporal

open BitemporalMapper (StoredAs Forward partitionOf)

-- ---------------------------------------------------------------------------
-- Weights of predicates
-- ---------------------------------------------------------------------------

namespace Predicate

def topClauses {β : Type} : Predicate β → List (Predicate β)
  | boolean clauses _ => clauses.map Prod.snd
  | _ => []

section

variable {β : Type} [Add β] [Mul β] [Zero β]

/-- A document passes with a weight for its score. One that fails weighs nothing. -/
def Weighs (count : Nat → β) (doc : Fields) (p : Predicate β) (k : Nat) : Prop :=
  score? doc p = if k = 0 then none else some (count k)

variable {count : Nat → β} {doc : Fields} {p : Predicate β} {parts : List (Predicate β)}
  {weights : List Nat}

theorem Weighs.isMatch_iff {k : Nat} (h : Weighs count doc p k) :
    isMatch doc p = true ↔ k ≠ 0 := by
  rw [← score?_isSome, h]
  split <;> simp [*]

theorem weighs_zero (h : isMatch doc p = false) : Weighs count doc p 0 := by
  rw [← score?_isSome, Option.isSome_eq_false_iff, Option.isNone_iff_eq_none] at h
  rw [Weighs, h, if_pos rfl]

theorem any_isMatch_iff (h : List.Forall₂ (Weighs count doc) parts weights) :
    parts.any (isMatch doc) = true ↔ weights.sum ≠ 0 := by
  induction h with
  | nil => simp
  | cons hhead _ ih =>
    rw [List.any_cons, Bool.or_eq_true, hhead.isMatch_iff, ih, List.sum_cons]
    omega

end

section

variable {β : Type} [Add β] [Mul β] [Zero β] [One β]

/-- Numbers that stand for the counts up to 8 and add up as these do. -/
structure Tallies (count : Nat → β) : Prop where
  zero : count 0 = 0
  one : count 1 = 1
  add : ∀ j k, j + k ≤ 8 → count j + count k = count (j + k)
  one_mul : ∀ k, k ≤ 8 → 1 * count k = count k

namespace Tallies

variable {count : Nat → β} {doc : Fields} {p q : Predicate β} {parts : List (Predicate β)}
  {weights : List Nat} {j k : Nat}

theorem totalScore (hc : Tallies count) (occur : Occur)
    (h : List.Forall₂ (Weighs count doc) parts weights) (n : Nat) (hn : n + weights.sum ≤ 8) :
    totalScore doc (count n) (parts.map fun p => (occur, p)) = count (n + weights.sum) := by
  -- The induction is over the clauses that are left, for any total so far.
  induction h generalizing n with
  | nil => rfl
  | @cons p k _ rest hhead _ ih =>
    rw [List.sum_cons] at hn ⊢
    rw [List.map_cons, Predicate.totalScore, hhead]
    cases k with
    | zero =>
      rw [Nat.zero_add] at hn ⊢
      exact ih n hn
    | succ k =>
      rw [if_neg (Nat.succ_ne_zero k), ← Nat.add_assoc, ← ih (n + (k + 1)) (by omega),
        ← hc.add n (k + 1) (by omega)]

theorem score?_anyOf (hc : Tallies count) (boost : β)
    (h : List.Forall₂ (Weighs count doc) parts weights) (hsum : weights.sum ≤ 8) :
    score? doc ((anyOf parts).withBoost boost) =
      if weights.sum = 0 then none else some (boost * count weights.sum) := by
  have hmatch := any_isMatch_iff h
  rw [← isMatch_anyOf, ← isMatch_withBoost boost] at hmatch
  have htotal := hc.totalScore .should h 0 (by omega)
  rw [hc.zero, Nat.zero_add] at htotal
  rw [anyOf, withBoost] at hmatch ⊢
  rw [score?, htotal]
  by_cases hzero : weights.sum = 0
  · rw [if_neg fun hpass => hmatch.mp hpass hzero, if_pos hzero]
  · rw [if_pos (hmatch.mpr hzero), if_neg hzero]

theorem weighs_anyOf (hc : Tallies count) (h : List.Forall₂ (Weighs count doc) parts weights)
    (hsum : weights.sum ≤ 8) : Weighs count doc (anyOf parts) weights.sum := by
  have hscore := hc.score?_anyOf 1 h hsum
  rw [hc.one_mul _ hsum] at hscore
  exact hscore

/-- Two weights together, or nothing if one of them is missing. -/
def both (j k : Nat) : Nat := if j = 0 ∨ k = 0 then 0 else j + k

theorem weighs_both (hc : Tallies count) (hp : Weighs count doc p j) (hq : Weighs count doc q k)
    (hsum : j + k ≤ 8) : Weighs count doc (allOf [p, q]) (both j k) := by
  have hmatch : isMatch doc (allOf [p, q]) = true ↔ ¬ (j = 0 ∨ k = 0) := by
    rw [isMatch_allOf, List.all_cons, List.all_cons, List.all_nil, Bool.and_true, Bool.and_eq_true,
      hp.isMatch_iff, hq.isMatch_iff, not_or]
  have htotal := hc.totalScore .must (.cons hp (.cons hq .nil)) 0 (by simpa using hsum)
  rw [hc.zero, Nat.zero_add, List.sum_cons, List.sum_cons, List.sum_nil, Nat.add_zero] at htotal
  rw [Weighs, both]
  rw [allOf] at hmatch ⊢
  rw [score?, htotal, hc.one_mul _ hsum]
  by_cases hzero : j = 0 ∨ k = 0
  · rw [if_neg fun hpass => hmatch.mp hpass hzero, if_pos hzero, if_pos rfl]
  · rw [if_pos (hmatch.mpr hzero), if_neg hzero, if_neg (by omega)]

end Tallies

end

theorem tallies_cast {β : Type} [Semiring β] : Tallies (Nat.cast : Nat → β) :=
  ⟨Nat.cast_zero, Nat.cast_one, fun j k _ => (Nat.cast_add j k).symm, fun _ _ => one_mul _⟩

end Predicate

theorem Binary64.tallies_ofCount : Predicate.Tallies ofCount := by
  have hbits : 8 ≤ 2 ^ 53 := by decide
  exact ⟨ofCount_zero, ofCount_one, fun j k h => ofCount_add (Nat.le_trans h hbits),
    fun k h => one_mul_ofCount (Nat.le_trans h hbits)⟩

-- ---------------------------------------------------------------------------
-- Weights of rectangles
-- ---------------------------------------------------------------------------

namespace Rectangle

open Predicate (Weighs Tallies)

/-- How many ways there are in which an interval overlaps a window; covering it counts twice. -/
def overlapWeight (lower upper start stop : Nat) : Nat :=
  (if lower ≤ start ∧ start ≤ upper then 1 else 0) +
    (if lower ≤ stop ∧ stop ≤ upper then 1 else 0) + if start ≤ lower ∧ upper ≤ stop then 2 else 0

def validOverlap (r : Rectangle) (ends : Ends Instant) : Nat :=
  overlapWeight r.validFrom.millis r.validTo.millis ends.validFrom.millis ends.validTo.millis

def transactionOverlap (r : Rectangle) (ends : Ends Instant) (lower : Nat) : Nat :=
  overlapWeight lower r.transactionTo.millis ends.transactionFrom.millis ends.transactionTo.millis

/-- The overlaps that an interval is tested for. -/
def overlaps (r : Rectangle) (ends : Ends Instant) : List Nat :=
  if r.partitions = [] then [] else
    match partitionOf ends with
    | .t1 => []
    | .t2 => [r.validOverlap ends]
    | .t3 => [r.transactionOverlap ends (max r.transactionFrom.millis r.validFrom.millis)]
    | .t4 => [r.validOverlap ends, r.transactionOverlap ends r.transactionFrom.millis]

/-- What an interval that is found scores before the boost. -/
def weight (r : Rectangle) (ends : Ends Instant) : Nat :=
  if r.partitions = [] then 1 else
    match partitionOf ends with
    | .t1 => 2
    | .t2 => 1 + r.validOverlap ends
    | .t3 => 1 + r.transactionOverlap ends (max r.transactionFrom.millis r.validFrom.millis)
    | .t4 => r.validOverlap ends + r.transactionOverlap ends r.transactionFrom.millis

-- What the two tests of an alternative weigh, on intervals of its partition.

def validWeight (r : Rectangle) (ends : Ends Instant) : Partition → Nat
  | .t1 | .t3 => if ends.validFrom.millis ≤ r.validTo.millis then 1 else 0
  | .t2 | .t4 => r.validOverlap ends

def transactionWeight (r : Rectangle) (ends : Ends Instant) : Partition → Nat
  | .t1 | .t2 => if ends.transactionFrom.millis ≤ r.transactionTo.millis then 1 else 0
  | .t3 => r.transactionOverlap ends (max r.transactionFrom.millis r.validFrom.millis)
  | .t4 => r.transactionOverlap ends r.transactionFrom.millis

theorem overlapWeight_le (lower upper start stop : Nat) :
    overlapWeight lower upper start stop ≤ 4 := by
  unfold overlapWeight
  split <;> split <;> split <;> omega

variable {r : Rectangle} {field : String} {ends : Ends Instant} {doc : Fields} {p : Partition}

theorem validWeight_le (r : Rectangle) (ends : Ends Instant) (p : Partition) :
    r.validWeight ends p ≤ 4 := by
  cases p with
  | t1 | t3 =>
    simp only [validWeight]
    split <;> omega
  | t2 | t4 => exact overlapWeight_le ..

theorem transactionWeight_le (r : Rectangle) (ends : Ends Instant) (p : Partition) :
    r.transactionWeight ends p ≤ 4 := by
  cases p with
  | t1 | t2 =>
    simp only [transactionWeight]
    split <;> omega
  | t3 | t4 => exact overlapWeight_le ..

theorem both_tests (P Q : Prop) [Decidable P] [Decidable Q] :
    Tallies.both (if P then 1 else 0) (if Q then 1 else 0) = if P ∧ Q then 2 else 0 := by
  by_cases hP : P <;> by_cases hQ : Q <;> simp [Tallies.both, hP, hQ]

def alternativeWeight (r : Rectangle) (ends : Ends Instant) (p : Partition) : Nat :=
  if p = partitionOf ends then Tallies.both (r.validWeight ends p) (r.transactionWeight ends p)
  else 0

theorem nodup_partitions (r : Rectangle) : r.partitions.Nodup := by
  dsimp only [partitions]
  split
  · split <;> decide
  · split
    · decide
    · split <;> decide

theorem sum_alternativeWeight (r : Rectangle) (ends : Ends Instant) :
    (r.partitions.map (r.alternativeWeight ends)).sum =
      if partitionOf ends ∈ r.partitions then Tallies.both (r.validWeight ends (partitionOf ends))
        (r.transactionWeight ends (partitionOf ends)) else 0 := by
  have hother : ∀ p, p ≠ partitionOf ends → p ∈ r.partitions → r.alternativeWeight ends p = 0 := by
    intro p hp _
    exact if_neg hp
  rw [List.sum_map_eq_nsmul_single _ _ hother, r.nodup_partitions.count, alternativeWeight,
    if_pos rfl]
  split <;> simp

/-- Both tests of an interval's own alternative pass. -/
def Weighted (r : Rectangle) (ends : Ends Instant) : Prop :=
  partitionOf ends ∈ r.partitions ∧ r.validWeight ends (partitionOf ends) ≠ 0 ∧
    r.transactionWeight ends (partitionOf ends) ≠ 0

theorem weight_eq (h : r.Weighted ends) :
    r.weight ends = r.validWeight ends (partitionOf ends) +
      r.transactionWeight ends (partitionOf ends) := by
  obtain ⟨hmem, hvalid, htransaction⟩ := h
  rw [weight, if_neg (List.ne_nil_of_mem hmem)]
  cases hp : partitionOf ends with
  | t1 =>
    simp only [hp, validWeight, transactionWeight] at hvalid htransaction ⊢
    rw [if_pos (by simpa using hvalid), if_pos (by simpa using htransaction)]
  | t2 =>
    simp only [hp, validWeight, transactionWeight] at hvalid htransaction ⊢
    rw [if_pos (by simpa using htransaction), Nat.add_comm]
  | t3 =>
    simp only [hp, validWeight, transactionWeight] at hvalid htransaction ⊢
    rw [if_pos (by simpa using hvalid)]
  | t4 => rfl

theorem weight_between (h : r.Weighted ends) : 1 ≤ r.weight ends ∧ r.weight ends ≤ 8 := by
  have hvalid := validWeight_le r ends (partitionOf ends)
  have htransaction := transactionWeight_le r ends (partitionOf ends)
  have hpos := h.2.1
  rw [weight_eq h]
  omega

theorem mem_overlaps {w : Nat} (h : w ∈ r.overlaps ends) :
    w = r.validWeight ends (partitionOf ends) ∨
      w = r.transactionWeight ends (partitionOf ends) := by
  unfold overlaps at h
  split at h
  · cases h
  · cases hp : partitionOf ends <;> simp only [hp, List.mem_cons, List.not_mem_nil, or_false] at h
    · exact .inl h
    · exact .inr h
    · exact h

theorem overlaps_between (h : r.Weighted ends) : ∀ w ∈ r.overlaps ends, 1 ≤ w ∧ w ≤ 4 := by
  intro w hw
  rcases mem_overlaps hw with rfl | rfl
  · exact ⟨Nat.pos_of_ne_zero h.2.1, validWeight_le ..⟩
  · exact ⟨Nat.pos_of_ne_zero h.2.2, transactionWeight_le ..⟩

theorem sum_eq_weight (h : r.Weighted ends) :
    (r.partitions.map (r.alternativeWeight ends)).sum = r.weight ends := by
  rw [sum_alternativeWeight, if_pos h.1, weight_eq h, Tallies.both,
    if_neg (not_or.mpr ⟨h.2.1, h.2.2⟩)]

theorem sum_eq_zero_iff :
    (r.partitions.map (r.alternativeWeight ends)).sum = 0 ↔ ¬ r.Weighted ends := by
  rw [sum_alternativeWeight, Tallies.both, Weighted]
  split <;> simp_all

theorem sum_alternativeWeight_le :
    (r.partitions.map (r.alternativeWeight ends)).sum ≤ 8 := by
  have hvalid := validWeight_le r ends (partitionOf ends)
  have htransaction := transactionWeight_le r ends (partitionOf ends)
  rw [sum_alternativeWeight, Tallies.both]
  split
  · split <;> omega
  · omega

theorem predicate_of_partitions {β : Type} [One β] (boost : β) (hne : r.partitions ≠ []) :
    r.predicate field boost =
      (Predicate.anyOf (r.partitions.map (r.alternative field))).withBoost boost := by
  unfold predicate
  split
  · contradiction
  · rfl

section

variable {β : Type} [Add β] [Mul β] [Zero β] [One β] {count : Nat → β}

theorem weighs_between (hc : Tallies count) (lower upper : Nat) {n : Nat}
    (h : doc.get? field = some (n : Int)) :
    Weighs count doc (between field lower upper) (if lower ≤ n ∧ n ≤ upper then 1 else 0) := by
  have hmatch : (between field lower upper : Predicate β).isMatch doc = true ↔
      lower ≤ n ∧ n ≤ upper := isMatch_between h
  by_cases hin : lower ≤ n ∧ n ≤ upper
  · rw [if_pos hin, Weighs, hc.one]
    exact if_pos (hmatch.mpr hin)
  · rw [if_neg hin]
    exact Predicate.weighs_zero (Bool.eq_false_iff.mpr fun hpass => hin (hmatch.mp hpass))

theorem weighs_started (hc : Tallies count) (upper : Nat) {n : Nat}
    (h : doc.get? field = some (n : Int)) :
    Weighs count doc (between field 0 upper) (if n ≤ upper then 1 else 0) := by
  have hweighs := weighs_between hc 0 upper h
  simpa only [Nat.zero_le, true_and] using hweighs

theorem weighs_overlap (hc : Tallies count) {startField stopField : String} (lower upper : Nat)
    {start stop : Nat} (hstart : doc.get? startField = some (start : Int))
    (hstop : doc.get? stopField = some (stop : Int)) (hnow : stop ≤ nowMillis) :
    Weighs count doc (overlap startField stopField lower upper)
      (overlapWeight lower upper start stop) := by
  have hcovers : Weighs count doc
      (.allOf [between startField 0 lower, between stopField upper nowMillis])
      (if start ≤ lower ∧ upper ≤ stop then 2 else 0) := by
    have hboth := hc.weighs_both (weighs_started hc lower hstart)
      (weighs_between hc upper nowMillis hstop) (by split <;> split <;> omega)
    rw [both_tests] at hboth
    simpa only [hnow, and_true] using hboth
  have hsum : [if lower ≤ start ∧ start ≤ upper then 1 else 0,
      if lower ≤ stop ∧ stop ≤ upper then 1 else 0,
      if start ≤ lower ∧ upper ≤ stop then 2 else 0].sum =
        overlapWeight lower upper start stop := by
    simp only [List.sum_cons, List.sum_nil, Nat.add_zero, overlapWeight, Nat.add_assoc]
  have hle := overlapWeight_le lower upper start stop
  rw [← hsum] at hle ⊢
  exact hc.weighs_anyOf (.cons (weighs_between hc lower upper hstart)
    (.cons (weighs_between hc lower upper hstop) (.cons hcovers .nil))) (by omega)

theorem weighs_alternative (hc : Tallies count) (h : StoredAs field ends doc) (p : Partition) :
    Weighs count doc (r.alternative field p) (r.alternativeWeight ends p) := by
  by_cases hp : p = partitionOf ends
  · have hstored : ∀ axis ∈ p.axes,
        doc.get? (p.fieldName field axis) = some ((ends.get axis).millis : Int) := by
      intro axis haxis
      exact h.get?_own hp haxis
    have hsum : r.validWeight ends p + r.transactionWeight ends p ≤ 8 :=
      Nat.add_le_add (validWeight_le ..) (transactionWeight_le ..)
    have hvalid := ends.validTo.le_now
    have htransaction := ends.transactionTo.le_now
    rw [alternativeWeight, if_pos hp]
    clear hp
    cases p with
    | t1 =>
      have hvf := hstored .validFrom (by decide)
      have htf := hstored .transactionFrom (by decide)
      exact hc.weighs_both (weighs_started hc _ hvf) (weighs_started hc _ htf) hsum
    | t2 =>
      have hvf := hstored .validFrom (by decide)
      have hvt := hstored .validTo (by decide)
      have htf := hstored .transactionFrom (by decide)
      exact hc.weighs_both (weighs_overlap hc _ _ hvf hvt hvalid) (weighs_started hc _ htf) hsum
    | t3 =>
      have hvf := hstored .validFrom (by decide)
      have htf := hstored .transactionFrom (by decide)
      have htt := hstored .transactionTo (by decide)
      exact hc.weighs_both (weighs_started hc _ hvf) (weighs_overlap hc _ _ htf htt htransaction)
        hsum
    | t4 =>
      have hvf := hstored .validFrom (by decide)
      have hvt := hstored .validTo (by decide)
      have htf := hstored .transactionFrom (by decide)
      have htt := hstored .transactionTo (by decide)
      exact hc.weighs_both (weighs_overlap hc _ _ hvf hvt hvalid)
        (weighs_overlap hc _ _ htf htt htransaction) hsum
  · rw [alternativeWeight, if_neg hp]
    exact Predicate.weighs_zero (isMatch_alternative_absent (h.get?_other hp))

theorem weighs_alternatives (hc : Tallies count) (h : StoredAs field ends doc) :
    List.Forall₂ (Weighs count doc) (r.partitions.map (r.alternative field))
      (r.partitions.map (r.alternativeWeight ends)) := by
  rw [List.forall₂_map_left_iff, List.forall₂_map_right_iff, List.forall₂_same]
  intro p _
  exact weighs_alternative hc h p

theorem isMatch_iff_weighted (hc : Tallies count) (boost : β) (h : StoredAs field ends doc)
    (hne : r.partitions ≠ []) :
    (r.predicate field boost).isMatch doc = true ↔ r.Weighted ends := by
  rw [predicate_of_partitions boost hne, Predicate.isMatch_withBoost, Predicate.isMatch_anyOf,
    Predicate.any_isMatch_iff (weighs_alternatives hc h), Ne, sum_eq_zero_iff, not_not]

/-- A match scores its weight, boosted; the flag of current records alone scores the boost. -/
theorem score?_predicate (hc : Tallies count) (boost : β) (h : StoredAs field ends doc) :
    (r.predicate field boost).score? doc =
      if (r.predicate field boost).isMatch doc then
        some (if r.partitions = [] then boost else boost * count (r.weight ends))
      else none := by
  by_cases hnil : r.partitions = []
  · rw [if_pos hnil]
    unfold predicate
    rw [hnil]
    rfl
  · have hmatch := isMatch_iff_weighted hc boost h hnil
    have hweighs := weighs_alternatives (r := r) hc h
    have hscore := hc.score?_anyOf boost hweighs sum_alternativeWeight_le
    rw [← predicate_of_partitions boost hnil] at hscore
    rw [hscore, if_neg hnil]
    by_cases hw : r.Weighted ends
    · rw [if_pos (hmatch.mpr hw), if_neg (fun hzero => sum_eq_zero_iff.mp hzero hw),
        sum_eq_weight hw]
    · rw [if_neg (fun hpass => hw (hmatch.mp hpass)), if_pos (sum_eq_zero_iff.mpr hw)]

theorem weights_of_isMatch (hc : Tallies count) (boost : β) (h : StoredAs field ends doc)
    (hpass : (r.predicate field boost).isMatch doc = true) :
    (∀ w ∈ r.overlaps ends, 1 ≤ w ∧ w ≤ 4) ∧ 1 ≤ r.weight ends ∧ r.weight ends ≤ 8 := by
  by_cases hnil : r.partitions = []
  · rw [overlaps, weight, if_pos hnil, if_pos hnil]
    exact ⟨fun w hw => absurd hw List.not_mem_nil, Nat.le_refl 1, by decide⟩
  · have hw := (isMatch_iff_weighted hc boost h hnil).mp hpass
    exact ⟨overlaps_between hw, weight_between hw⟩

theorem length_filter_topClauses (hc : Tallies count) (boost : β) (h : StoredAs field ends doc) :
    ((r.predicate field boost).topClauses.filter (Predicate.isMatch doc)).length ≤ 1 := by
  by_cases hnil : r.partitions = []
  · unfold predicate
    rw [hnil]
    exact Nat.zero_le _
  have htop : (r.predicate field boost).topClauses = r.partitions.map (r.alternative field) := by
    rw [predicate_of_partitions boost hnil, Predicate.anyOf, Predicate.withBoost,
      Predicate.topClauses, List.map_map]
    exact List.map_id _
  rw [htop, List.filter_map, List.length_map]
  let passes (p : Partition) : Bool := (r.alternative field p : Predicate β).isMatch doc
  change (r.partitions.filter passes).length ≤ 1
  have hown : ∀ p ∈ r.partitions.filter passes, p = partitionOf ends := by
    intro p hp
    by_contra hother
    have hpass := (weighs_alternative (r := r) hc h p).isMatch_iff.mp (List.mem_filter.mp hp).2
    exact hpass (if_neg hother)
  have hnodup := r.nodup_partitions.filter passes
  rw [List.eq_replicate_of_mem hown, List.nodup_replicate] at hnodup
  exact hnodup

end

-- ---------------------------------------------------------------------------
-- Scores of stored records
-- ---------------------------------------------------------------------------

variable {m : BitemporalMapper} {record : Record} {s : StoredInterval}

/-- A stored record is found by one alternative at most, and scores the boost times its weight. -/
theorem predicate_score_stored {β : Type} [Semiring β] [PartialOrder β] [IsOrderedRing β]
    (boost : β) (hm : BitemporalMapper.standard field = .ok m)
    (hs : m.store record = .ok (some s)) (r : Rectangle) :
    ∃ ends, m.readEnds record = .ok (ends.map some) ∧
      ((r.predicate field boost).topClauses.filter (Predicate.isMatch s.fields)).length ≤ 1 ∧
      (r.predicate field boost).score? s.fields =
        (if (r.predicate field boost).isMatch s.fields then some (boost * (r.weight ends : β))
        else none) ∧
      ∀ score, (r.predicate field boost).score? s.fields = some score →
        (∀ w ∈ r.overlaps ends, 1 ≤ w ∧ w ≤ 4) ∧
          (0 < boost → boost * 1 ≤ score ∧ score ≤ boost * 8) := by
  obtain ⟨ends, hread, -, hstored⟩ := BitemporalMapper.standard_store hm hs
  have hc : Tallies (Nat.cast : Nat → β) := Predicate.tallies_cast
  have hscore := score?_predicate (r := r) hc boost hstored
  have hboosted : (if r.partitions = [] then boost else boost * (r.weight ends : β)) =
      boost * (r.weight ends : β) := by
    split
    · rename_i hnil
      rw [weight, if_pos hnil, Nat.cast_one, mul_one]
    · rfl
  rw [hboosted] at hscore
  refine ⟨ends, hread, length_filter_topClauses hc boost hstored, hscore, ?_⟩
  intro score hsome
  rw [hscore, Option.ite_none_right_eq_some] at hsome
  obtain ⟨hpass, hsome⟩ := hsome
  obtain rfl := Option.some.inj hsome
  obtain ⟨hoverlaps, hleast, hmost⟩ := weights_of_isMatch hc boost hstored hpass
  refine ⟨hoverlaps, ?_⟩
  intro hboost
  have hlow : (1 : β) ≤ r.weight ends := by
    rw [← Nat.cast_one]
    exact Nat.mono_cast hleast
  have hhigh : (r.weight ends : β) ≤ 8 := by
    rw [← Nat.cast_ofNat]
    exact Nat.mono_cast hmost
  exact ⟨mul_le_mul_of_nonneg_left hlow hboost.le, mul_le_mul_of_nonneg_left hhigh hboost.le⟩

/-- An interval that is the rectangle itself passes all tests, and scores as much as a match can. -/
theorem predicate_score_stored_same :
    ∃ m s, BitemporalMapper.standard "name" = .ok m ∧
      m.store (BitemporalMapper.recordOf ⟨10, 20, 5, 30⟩) = .ok (some s) ∧
      (predicate ⟨⟨10, by decide⟩, ⟨20, by decide⟩, ⟨5, by decide⟩, ⟨30, by decide⟩⟩ "name"
        (1 / 2 : ℚ)).score? s.fields = some 4 := by
  obtain ⟨m, hm⟩ : ∃ m, BitemporalMapper.standard "name" = .ok m :=
    BitemporalMapper.exists_standard (by decide)
  let ends : Ends Instant :=
    ⟨⟨10, by decide⟩, ⟨20, by decide⟩, ⟨5, by decide⟩, ⟨30, by decide⟩⟩
  have hf : Forward ends := ⟨by decide, by decide⟩
  have hs := BitemporalMapper.store_recordOf hm hf
  obtain ⟨found, hread, -, hscore, -⟩ := predicate_score_stored (1 / 2 : ℚ) hm hs ends
  rw [BitemporalMapper.readEnds_recordOf hm, Except.ok.injEq] at hread
  obtain rfl := Ends.map_some_inj hread
  have hpass := (isMatch_predicate_forward (1 / 2 : ℚ) hf
    (BitemporalMapper.storedAs_standard hm ends) hf).mpr (by decide)
  have hweight : weight ends ends = 8 := by decide
  rw [if_pos hpass, hweight] at hscore
  refine ⟨m, _, hm, hs, hscore.trans (congrArg some ?_)⟩
  norm_num

/-- In double precision the score is the product of the boost and the weight, rounded once. -/
theorem predicate_score_binary64 (boost : Binary64) (h : StoredAs field ends doc) :
    (r.predicate field boost).score? doc =
      if (r.predicate field boost).isMatch doc then
        some (if r.partitions = [] then boost else boost * .ofCount (r.weight ends))
      else none :=
  score?_predicate Binary64.tallies_ofCount boost h

end Rectangle

end Bitemporal
