import Bitemporal.Proofs.MapperLaws
import Bitemporal.Proofs.PredicateLaws
import Bitemporal.Rectangle

/-!
# What a rectangle's predicate finds

The predicate of a rectangle is read alternative by alternative on a document that stores one
interval. Only the alternative of the interval's own partition can pass, and it passes as
`Rectangle.Admits` says, whichever way the windows run. `isMatch_predicate` puts this together with
the choice of partitions; `isMatch_predicate_forward` gives the one formula that is left of it for
windows that run forwards.
-/

namespace Bitemporal

open BitemporalMapper (StoredAs StoresNothing Forward partitionOf)

namespace Instant

theorem isNow_iff {i : Instant} : i.isNow = true ↔ i.millis = nowMillis := by simp [isNow]

theorem isNow_eq_false_iff {i : Instant} : i.isNow = false ↔ i.millis < nowMillis := by
  have := i.le_now
  simp only [isNow, decide_eq_false_iff_not]
  omega

theorem isEarliest_iff {i : Instant} : i.isEarliest = true ↔ i.millis = 0 := by simp [isEarliest]

end Instant

namespace Ends

/-- A window and an interval have instants in common on both axes. -/
def Meets (window ends : Ends Nat) : Prop :=
  ends.validFrom ≤ window.validTo ∧ window.validFrom ≤ ends.validTo ∧
    ends.transactionFrom ≤ window.transactionTo ∧ window.transactionFrom ≤ ends.transactionTo

/-- A window finds the intervals that it meets. One whose valid end is open is found only if the
window of valid time starts before transaction time stops, in the window and in the interval. -/
def Finds (now : Nat) (window ends : Ends Nat) : Prop :=
  window.Meets ends ∧
    (ends.validTo = now → window.validFrom ≤ min window.transactionTo ends.transactionTo)

instance (window ends : Ends Nat) : Decidable (window.Meets ends) := by
  unfold Meets
  infer_instance

instance (now : Nat) (window ends : Ends Nat) : Decidable (window.Finds now ends) := by
  unfold Finds
  infer_instance

end Ends

namespace Rectangle

variable {r : Rectangle} {field : String} {ends : Ends Instant} {doc : Fields} {p : Partition}
  {β : Type} [One β]

-- ---------------------------------------------------------------------------
-- One axis
-- ---------------------------------------------------------------------------

/-- What the overlap test decides on an interval: the window is taken to run from its smaller bound
to its larger one. -/
def Touches (lower upper start stop : Nat) : Prop :=
  start ≤ max lower upper ∧ min lower upper ≤ stop

theorem isMatch_between {lower upper n : Nat} (h : doc.get? field = some (n : Int)) :
    (between field lower upper : Predicate β).isMatch doc = true ↔ lower ≤ n ∧ n ≤ upper := by
  simp only [between, Predicate.isMatch, h, Option.any_some, Window.admits_iff, and_true]
  omega

theorem isMatch_between_absent {lower upper : Nat} (h : doc.get? field = none) :
    (between field lower upper : Predicate β).isMatch doc = false := by
  simp [between, Predicate.isMatch, h]

theorem isMatch_overlap {startField stopField : String} {lower upper start stop : Nat}
    (hstart : doc.get? startField = some (start : Int))
    (hstop : doc.get? stopField = some (stop : Int)) (h : start ≤ stop) (hnow : stop ≤ nowMillis) :
    (overlap startField stopField lower upper : Predicate β).isMatch doc = true ↔
      Touches lower upper start stop := by
  simp only [overlap, Predicate.isMatch_anyOf, Predicate.isMatch_allOf, List.any_cons, List.any_nil,
    List.all_cons, List.all_nil, Bool.or_false, Bool.and_true, Bool.or_eq_true, Bool.and_eq_true,
    isMatch_between hstart, isMatch_between hstop, Touches]
  omega

theorem isMatch_between_iff {lower upper : Nat} :
    (between field lower upper : Predicate β).isMatch doc = true ↔
      ∃ n : Int, doc.get? field = some n ∧ lower ≤ n ∧ n ≤ upper := by
  cases h : doc.get? field with
  | none => simp [isMatch_between_absent h]
  | some n =>
    simp only [between, Predicate.isMatch, h, Option.any_some, Window.admits_iff, and_true,
      Option.some.injEq, exists_eq_left']
    omega

/-- Where one end is missing, no interval can cover the window. -/
theorem isMatch_overlap_absent {startField stopField : String} {lower upper : Nat}
    (h : doc.get? startField = none ∨ doc.get? stopField = none) :
    (overlap startField stopField lower upper : Predicate β).isMatch doc = true ↔
      ∃ name ∈ [startField, stopField], ∃ n : Int, doc.get? name = some n ∧
        lower ≤ n ∧ n ≤ upper := by
  have hcover : ((between startField 0 lower : Predicate β).isMatch doc &&
      (between stopField upper nowMillis : Predicate β).isMatch doc) = false := by
    rcases h with h | h <;> simp [isMatch_between_absent h]
  simp only [overlap, Predicate.isMatch_anyOf, Predicate.isMatch_allOf, List.any_cons,
    List.any_nil, List.all_cons, List.all_nil, Bool.and_true, hcover, Bool.or_false,
    Bool.or_eq_true, isMatch_between_iff, List.exists_mem_cons_iff, List.not_mem_nil, false_and,
    exists_false, or_false]

/-- An interval passes the overlap test if it reaches from below the larger bound of the window to
above the smaller one. What lacks an end passes by an end that it has between the bounds. -/
theorem overlap_window (doc : Fields) (startField stopField : String) (lower upper : Instant) :
    (∀ start stop : Int, doc.get? startField = some start → doc.get? stopField = some stop →
      0 ≤ start → start ≤ stop → stop ≤ nowMillis →
      ((overlap startField stopField lower.millis upper.millis : Predicate β).isMatch doc = true ↔
        start ≤ max (lower.millis : Int) upper.millis ∧
          min (lower.millis : Int) upper.millis ≤ stop)) ∧
    (doc.get? startField = none ∨ doc.get? stopField = none →
      ((overlap startField stopField lower.millis upper.millis : Predicate β).isMatch doc = true ↔
        ∃ name ∈ [startField, stopField], ∃ n : Int, doc.get? name = some n ∧
          lower.millis ≤ n ∧ n ≤ upper.millis)) := by
  constructor
  · intro start stop hstart hstop hlow hle hnow
    obtain ⟨start, rfl⟩ := Int.eq_ofNat_of_zero_le hlow
    obtain ⟨stop, rfl⟩ := Int.eq_ofNat_of_zero_le (Int.le_trans hlow hle)
    rw [isMatch_overlap hstart hstop (Int.ofNat_le.mp hle) (Int.ofNat_le.mp hnow), Touches]
    omega
  · intro habsent
    exact isMatch_overlap_absent habsent

/-- A window from 10 to 5 is touched by what covers it, and nothing lies in it. -/
theorem overlap_window_inverted :
    (overlap "from" "to" 10 5 : Predicate Binary64).isMatch
        (OrderedMap.ofList [("from", 0), ("to", 20)]) = true ∧
      (overlap "from" "to" 10 5 : Predicate Binary64).isMatch
        (OrderedMap.ofList [("from", 7)]) ≠ true := by
  have hwindow (doc : Fields) := overlap_window (β := Binary64) doc "from" "to"
    ⟨10, by decide⟩ ⟨5, by decide⟩
  constructor
  · exact ((hwindow _).1 0 20 rfl rfl (by decide) (by decide) (by decide)).mpr (by decide)
  · intro hmatch
    obtain ⟨name, -, n, -, hlow, hhigh⟩ := ((hwindow _).2 (.inr rfl)).mp hmatch
    exact absurd (Int.le_trans hlow hhigh) (by decide)

-- ---------------------------------------------------------------------------
-- One alternative
-- ---------------------------------------------------------------------------

/-- What the alternative of a partition asks of an interval of that partition. -/
def Admits (r : Rectangle) (ends : Ends Instant) : Partition → Prop
  | .t1 => ends.validFrom.millis ≤ r.validTo.millis ∧
      ends.transactionFrom.millis ≤ r.transactionTo.millis
  | .t2 => Touches r.validFrom.millis r.validTo.millis ends.validFrom.millis ends.validTo.millis ∧
      ends.transactionFrom.millis ≤ r.transactionTo.millis
  | .t3 => ends.validFrom.millis ≤ r.validTo.millis ∧
      Touches (max r.transactionFrom.millis r.validFrom.millis) r.transactionTo.millis
        ends.transactionFrom.millis ends.transactionTo.millis
  | .t4 => Touches r.validFrom.millis r.validTo.millis ends.validFrom.millis ends.validTo.millis ∧
      Touches r.transactionFrom.millis r.transactionTo.millis ends.transactionFrom.millis
        ends.transactionTo.millis

/-- Every alternative asks for the start of valid time under its own partition's name. -/
theorem isMatch_alternative_absent
    (h : ∀ axis, doc.get? (p.fieldName field axis) = none) :
    (r.alternative field p : Predicate β).isMatch doc = false := by
  cases p <;> simp [alternative, overlap, isMatch_between_absent, h]

theorem isMatch_alternative (h : StoredAs field ends doc) (hf : Forward ends) :
    (r.alternative field p : Predicate β).isMatch doc = true ↔
      p = partitionOf ends ∧ r.Admits ends p := by
  by_cases hp : p = partitionOf ends
  · have haxis : ∀ axis ∈ p.axes,
        doc.get? (p.fieldName field axis) = some ((ends.get axis).millis : Int) :=
      fun _ haxis => h.get?_own hp haxis
    have hvalid : ends.validFrom.millis ≤ ends.validTo.millis := hf.1
    have htransaction : ends.transactionFrom.millis ≤ ends.transactionTo.millis := hf.2
    have hb := ends.validTo.le_now
    have hd := ends.transactionTo.le_now
    rw [← hp]
    cases p <;> simp only [Partition.axes, List.mem_cons, List.not_mem_nil, or_false,
        forall_eq_or_imp, forall_eq, Ends.get] at haxis <;>
      simp only [alternative, Predicate.isMatch_allOf, List.all_cons, List.all_nil, Bool.and_true,
        Bool.and_eq_true, true_and, Admits]
    · obtain ⟨ha, hc⟩ := haxis
      simp only [isMatch_between ha, isMatch_between hc, Nat.zero_le, true_and]
    · obtain ⟨ha, hb', hc⟩ := haxis
      simp only [isMatch_overlap ha hb' hvalid hb, isMatch_between hc, Nat.zero_le, true_and]
    · obtain ⟨ha, hc, hd'⟩ := haxis
      simp only [isMatch_between ha, isMatch_overlap hc hd' htransaction hd, Nat.zero_le, true_and]
    · obtain ⟨ha, hb', hc, hd'⟩ := haxis
      simp only [isMatch_overlap ha hb' hvalid hb, isMatch_overlap hc hd' htransaction hd]
  · simp [isMatch_alternative_absent (h.get?_other hp), hp]

-- ---------------------------------------------------------------------------
-- The choice of alternatives
-- ---------------------------------------------------------------------------

theorem partitions_eq_nil :
    r.partitions = [] ↔ r.transactionFrom.isNow = true ∧ r.fullValidWindow = true := by
  unfold partitions
  cases r.transactionFrom.isNow <;> cases r.fullValidWindow <;> simp <;> split <;> simp

/-- A partition is left out if its open valid end or its closed transaction end rules it out. -/
theorem mem_partitions : p ∈ r.partitions ↔
    (r.transactionFrom.isNow = true → r.fullValidWindow = false) ∧
      (Axis.validTo ∉ p.axes → r.validFrom.millis ≤ r.transactionTo.millis) ∧
      (Axis.transactionTo ∈ p.axes → r.transactionFrom.isNow = false) := by
  unfold partitions
  cases r.transactionFrom.isNow <;> cases r.fullValidWindow <;>
    by_cases h : r.validFrom.millis ≤ r.transactionTo.millis <;>
    cases p <;> simp [h, Partition.axes]

/-- What a rectangle asks of an interval: to be current if the mark alone answers the query, and
otherwise to pass the alternative of its partition. -/
def Accepts (r : Rectangle) (ends : Ends Instant) : Prop :=
  if r.partitions = [] then ends.transactionTo.isNow = true
  else partitionOf ends ∈ r.partitions ∧ r.Admits ends (partitionOf ends)

theorem isMatch_predicate (boost : β) (h : StoredAs field ends doc) (hf : Forward ends) :
    (r.predicate field boost).isMatch doc = true ↔ r.Accepts ends := by
  unfold predicate Accepts
  split
  case h_1 hnil =>
    simp only [hnil, Predicate.isMatch, h.flag, if_true]
    cases ends.transactionTo.isNow <;> simp
  case h_2 hne =>
    rw [if_neg hne]
    simp only [Predicate.isMatch_withBoost, Predicate.isMatch_anyOf, List.any_map, List.any_eq_true,
      Function.comp_apply, isMatch_alternative h hf]
    constructor
    · rintro ⟨p, hp, rfl, hadmits⟩
      exact ⟨hp, hadmits⟩
    · rintro ⟨hp, hadmits⟩
      exact ⟨_, hp, rfl, hadmits⟩

/-- Without stored fields there is nothing to find. -/
theorem isMatch_predicate_absent (boost : β) (h : StoresNothing field doc) :
    (r.predicate field boost).isMatch doc = false := by
  unfold predicate
  split
  · simp [Predicate.isMatch, h _ (.flag field)]
  · simp [isMatch_alternative_absent fun axis => h _ (.axis ..)]

-- ---------------------------------------------------------------------------
-- Windows that run forwards
-- ---------------------------------------------------------------------------

theorem touches_forward {lower upper start stop : Nat} (h : lower ≤ upper) :
    Touches lower upper start stop ↔ start ≤ upper ∧ lower ≤ stop := by
  unfold Touches
  omega

theorem accepts_forward (hr : Forward r) (hf : Forward ends) :
    r.Accepts ends ↔ (Ends.millis r).Finds nowMillis (Ends.millis ends) := by
  obtain ⟨hvalid, htransaction⟩ := hr
  obtain ⟨hvalid', htransaction'⟩ := hf
  have hvt := r.validTo.le_now
  have htt := r.transactionTo.le_now
  have hb := ends.validTo.le_now
  have hd := ends.transactionTo.le_now
  simp only [Ends.Finds, Ends.Meets, Ends.millis, Ends.map, Ends.ofFn, Ends.get]
  unfold Accepts
  split
  case isTrue hnil =>
    -- Every valid instant is in the window, and no transaction instant but the last.
    rw [partitions_eq_nil, fullValidWindow, Bool.and_eq_true, Instant.isNow_iff,
      Instant.isEarliest_iff, Instant.isNow_iff] at hnil
    rw [Instant.isNow_iff]
    omega
  case isFalse hne =>
    rw [partitions_eq_nil, not_and, Bool.not_eq_true] at hne
    rw [mem_partitions, iff_true_intro hne, true_and, partitionOf, Partition.mem_axes_classify,
      Partition.mem_axes_classify]
    simp only [reduceCtorEq, false_imp_iff, true_imp_iff, and_true, true_and,
      Instant.isNow_eq_false_iff]
    cases hvalidOpen : ends.validTo.isNow <;> cases htransactionOpen : ends.transactionTo.isNow <;>
      simp only [Partition.classify, hvalidOpen, htransactionOpen, Admits] <;>
      simp only [Instant.isNow_iff, Instant.isNow_eq_false_iff] at hvalidOpen htransactionOpen
    case false.false => rw [touches_forward hvalid, touches_forward htransaction]; omega
    case false.true => rw [touches_forward hvalid]; omega
    case true.false => unfold Touches; omega
    case true.true => omega

theorem isMatch_predicate_forward (boost : β) (hr : Forward r) (h : StoredAs field ends doc)
    (hf : Forward ends) :
    (r.predicate field boost).isMatch doc = true ↔
      (Ends.millis r).Finds nowMillis (Ends.millis ends) :=
  (isMatch_predicate boost h hf).trans (accepts_forward hr hf)

end Rectangle

end Bitemporal
