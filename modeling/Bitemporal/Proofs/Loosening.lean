import Bitemporal.Proofs.ConditionLaws
import Bitemporal.Proofs.StandardMapper

/-!
# Looser conditions find no less

A condition is loosened side by side: a bound is dropped, or another one takes its place that gives
an instant further out. The rectangle of the looser condition then holds the one of the stricter.
The two may ask for different partitions, and one of them for the mark of current records alone.
But forward rectangles find intervals by one formula, and that formula keeps what it finds when its
window grows.
-/

namespace Bitemporal

open BitemporalMapper (Forward StoredAs)

-- ---------------------------------------------------------------------------
-- Windows that grow
-- ---------------------------------------------------------------------------

/-- Moving a side of a window from one count to another does not shrink the window. -/
def Axis.Outward : Axis → Nat → Nat → Prop
  | .validFrom, n, k | .transactionFrom, n, k => k ≤ n
  | .validTo, n, k | .transactionTo, n, k => n ≤ k

namespace Ends

variable {inner outer ends : Ends Nat} {now : Nat}

def Within (inner outer : Ends Nat) : Prop :=
  ∀ axis : Axis, axis.Outward (inner.get axis) (outer.get axis)

theorem Finds.mono (hin : inner.Within outer) (h : inner.Finds now ends) :
    outer.Finds now ends := by
  have hvf : outer.validFrom ≤ inner.validFrom := hin .validFrom
  have hvt : inner.validTo ≤ outer.validTo := hin .validTo
  have htf : outer.transactionFrom ≤ inner.transactionFrom := hin .transactionFrom
  have htt : inner.transactionTo ≤ outer.transactionTo := hin .transactionTo
  obtain ⟨⟨hstart, hstop, hcreated, hremoved⟩, hopen⟩ := h
  refine ⟨⟨by omega, by omega, by omega, by omega⟩, fun hnow => ?_⟩
  have := hopen hnow
  omega

end Ends

theorem Rectangle.outward_everything (axis : Axis) (i : Instant) :
    axis.Outward i.millis (everything.get axis).millis := by
  cases axis with
  | validFrom | transactionFrom => exact Nat.zero_le _
  | validTo | transactionTo => exact i.le_now

-- ---------------------------------------------------------------------------
-- Conditions that are loosened
-- ---------------------------------------------------------------------------

namespace BitemporalCondition

variable {c d : BitemporalCondition} {m : BitemporalMapper} {axis : Axis} {r outer : Rectangle}
  {record : Record} {fields : Fields}

/-- The instant that a bound gives for its side. A bound that is not set leaves the side open. -/
def Gives (m : BitemporalMapper) (axis : Axis) : Option Bound → Instant → Prop
  | none, i => i = Rectangle.everything.get axis
  | some bound, i => m.readInstant bound.value = .ok (some i)

theorem Gives.unique {bound : Option Bound} {i j : Instant} (hi : Gives m axis bound i)
    (hj : Gives m axis bound j) : i = j := by
  cases bound with
  | none => exact hi.trans hj.symm
  | some bound => exact Option.some.inj (Except.ok.inj (hi.symm.trans hj))

theorem rectangle_ok_iff :
    c.rectangle m = .ok r ↔ ∀ axis, Gives m axis (c.bounds.get axis) (r.get axis) := by
  rw [rectangle, Ends.forAll?_ok]
  refine forall_congr' fun axis => ?_
  cases c.bounds.get axis with
  | none => simp [Gives, eq_comm]
  | some bound =>
    simp only [Gives, map_ok]
    constructor
    · rintro ⟨read, hread, hi⟩
      cases read with
      | none => exact absurd hread (readInstant_value_ne_none bound)
      | some i => rwa [← hi]
    · intro h
      exact ⟨_, h, rfl⟩

/-- One bound of a side is looser than another. -/
inductive Loosens (m : BitemporalMapper) (axis : Axis) : Option Bound → Option Bound → Prop
  | dropped (bound : Option Bound) : Loosens m axis bound none
  | moved {bound other : Option Bound} {i j : Instant} (before : Gives m axis bound i)
      (after : Gives m axis other j) (outward : axis.Outward i.millis j.millis) :
      Loosens m axis bound other

theorem Loosens.outward {bound other : Option Bound} {i j : Instant}
    (h : Loosens m axis bound other) (hi : Gives m axis bound i) (hj : Gives m axis other j) :
    axis.Outward i.millis j.millis := by
  cases h with
  | dropped =>
    obtain rfl : j = Rectangle.everything.get axis := hj
    exact Rectangle.outward_everything axis i
  | moved before after outward => rwa [hi.unique before, hj.unique after]

theorem within_of_loosens (hc : c.rectangle m = .ok r) (hd : d.rectangle m = .ok outer)
    (h : ∀ axis, Loosens m axis (c.bounds.get axis) (d.bounds.get axis)) :
    (Ends.millis r).Within (Ends.millis outer) := by
  intro axis
  simp only [Ends.millis, Ends.get_map]
  exact (h axis).outward (rectangle_ok_iff.mp hc axis) (rectangle_ok_iff.mp hd axis)

section

variable {β : Type} [One β]

/-- A record that a condition finds is found by every condition that loosens it. -/
theorem loosened_finds (boost other : β) (hc : c.rectangle m = .ok r)
    (hd : d.rectangle m = .ok outer) (hr : Forward r) (houter : Forward outer)
    (h : ∀ axis, Loosens m axis (c.bounds.get axis) (d.bounds.get axis))
    (hfields : m.documentFields record = .ok fields)
    (hfound : (r.predicate m.field boost).isMatch fields = true) :
    (outer.predicate m.field other).isMatch fields = true := by
  obtain ⟨stored, hstore, rfl⟩ := map_ok.mp hfields
  cases stored with
  | none =>
    have habsent : (r.predicate m.field boost).isMatch ∅ = false :=
      Rectangle.isMatch_predicate_absent boost fun _ _ => rfl
    exact absurd (habsent.symm.trans hfound) (by decide)
  | some s =>
    obtain ⟨ends, -, hforward, rfl⟩ := BitemporalMapper.store_some_iff.mp hstore
    have hstored := BitemporalMapper.storedAs_stored m ends
    have hfinds := (Rectangle.isMatch_predicate_forward boost hr hstored hforward).mp hfound
    exact (Rectangle.isMatch_predicate_forward other houter hstored hforward).mpr
      (hfinds.mono (within_of_loosens hc hd h))

end

/-- What is valid at some instant from 10 to 20 and current, among the partitions of current
records. -/
def validCurrent : BitemporalCondition :=
  ⟨"name", none, ⟨some (.millis 10), some (.millis 20), some (.millis 9223372036854775807), none⟩⟩

/-- What is current, which the mark tells. -/
def current : BitemporalCondition :=
  ⟨"name", none, ⟨none, none, some (.millis 9223372036854775807), none⟩⟩

theorem loosened_finds_current :
    ∃ m r outer fields, BitemporalMapper.standard "name" = .ok m ∧
      validCurrent.rectangle m = .ok r ∧ r.partitions = [.t1, .t2] ∧
      current.rectangle m = .ok outer ∧ outer.partitions = [] ∧
      m.documentFields (BitemporalMapper.recordOf ⟨0, 15, 5, nowMillis⟩) = .ok fields ∧
      (r.predicate m.field (1 : Binary64)).isMatch fields = true ∧
      (outer.predicate m.field (1 : Binary64)).isMatch fields = true := by
  obtain ⟨m, hm⟩ : ∃ m, BitemporalMapper.standard "name" = .ok m :=
    BitemporalMapper.exists_standard (by decide)
  have hnow := BitemporalMapper.standard_now hm
  have hread (i : Instant) : m.readInstant (.int i.millis) = .ok (some i) := by
    refine BitemporalMapper.readInstant_some_iff.mpr
      ⟨i.millis, BitemporalMapper.reads_int (hnow ▸ i.le_now), ?_⟩
    unfold BitemporalMapper.collapse
    split <;> simp_all
  let r : Rectangle := ⟨⟨10, by decide⟩, ⟨20, by decide⟩, .now, .now⟩
  let outer : Rectangle := ⟨.earliest, .now, .now, .now⟩
  let ends : Ends Instant := ⟨.earliest, ⟨15, by decide⟩, ⟨5, by decide⟩, .now⟩
  have hc : validCurrent.rectangle m = .ok r := by
    refine rectangle_ok_iff.mpr fun axis => ?_
    cases axis with
    | validFrom => exact hread ⟨10, by decide⟩
    | validTo => exact hread ⟨20, by decide⟩
    | transactionFrom => exact hread .now
    | transactionTo => rfl
  have hd : current.rectangle m = .ok outer := by
    refine rectangle_ok_iff.mpr fun axis => ?_
    cases axis with
    | transactionFrom => exact hread .now
    | validFrom | validTo | transactionTo => rfl
  have hloosens (axis : Axis) :
      Loosens m axis (validCurrent.bounds.get axis) (current.bounds.get axis) := by
    cases axis with
    | transactionFrom => exact .moved (hread .now) (hread .now) (Nat.le_refl _)
    | validFrom | validTo | transactionTo => exact .dropped _
  have hforward : Forward ends := ⟨by decide, by decide⟩
  have hr : Forward r := ⟨by decide, by decide⟩
  have hfields : m.documentFields (BitemporalMapper.recordOf ends.millis) =
      .ok (m.stored ends).fields :=
    map_ok.mpr ⟨_, BitemporalMapper.store_recordOf hm hforward, rfl⟩
  have hfound : (r.predicate m.field (1 : Binary64)).isMatch (m.stored ends).fields = true :=
    (Rectangle.isMatch_predicate_forward 1 hr (BitemporalMapper.storedAs_stored m ends)
      hforward).mpr (by decide)
  exact ⟨m, r, outer, _, hm, hc, by decide, hd, by decide, hfields, hfound,
    loosened_finds 1 1 hc hd hr ⟨by decide, by decide⟩ hloosens hfields hfound⟩

end BitemporalCondition

end Bitemporal
