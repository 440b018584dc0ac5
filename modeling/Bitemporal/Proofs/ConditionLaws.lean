import Bitemporal.Condition
import Bitemporal.Proofs.RectangleLaws

/-!
# The window that a condition gives

A condition gives a window in the millisecond counts of a mapper, with a side that is not set left
open. Its rectangle stands for the window among instants: comparing instants of the rectangle with
those of a record decides what comparing the counts decides, although the mapper's open end has
been replaced by the general one.
-/

namespace Bitemporal

open BitemporalMapper (Forward)

-- ---------------------------------------------------------------------------
-- Rectangles that stand for windows
-- ---------------------------------------------------------------------------

namespace BitemporalMapper

variable {m : BitemporalMapper} {w ends : Ends Nat} {r : Rectangle} {axis : Axis}

def openWindow (m : BitemporalMapper) : Ends Nat := ⟨0, m.now, 0, m.now⟩

/-- An instant stands for a count as a bound of a window. A lower bound is only ever compared with
counts above it, and so may be the earliest instant where the count is 0. -/
def StandsFor (m : BitemporalMapper) (axis : Axis) (i : Instant) (n : Nat) : Prop :=
  n ≤ m.now ∧
    match axis with
    | .validFrom | .transactionFrom => ∀ k ≤ m.now, i.millis ≤ m.collapse k ↔ n ≤ k
    | .validTo | .transactionTo => i.millis = m.collapse n

theorem standsFor_collapse {i : Instant} {n : Nat} (hn : n ≤ m.now)
    (hi : i.millis = m.collapse n) : m.StandsFor axis i n := by
  refine ⟨hn, ?_⟩
  cases axis
  case validFrom | transactionFrom => exact fun k hk => hi ▸ collapse_le_iff hn hk
  case validTo | transactionTo => exact hi

theorem standsFor_open :
    m.StandsFor axis (Rectangle.everything.get axis) (m.openWindow.get axis) := by
  cases axis
  case validFrom | transactionFrom =>
    exact ⟨Nat.zero_le _, fun k _ => iff_of_true (Nat.zero_le _) (Nat.zero_le _)⟩
  case validTo | transactionTo => exact ⟨Nat.le_refl _, (if_pos rfl).symm⟩

def Shows (m : BitemporalMapper) (w : Ends Nat) (r : Rectangle) : Prop :=
  ∀ axis, m.StandsFor axis (r.get axis) (w.get axis)

theorem Shows.forward (h : m.Shows w r) (hvalid : w.validFrom ≤ w.validTo)
    (htransaction : w.transactionFrom ≤ w.transactionTo) : Forward r := by
  obtain ⟨hvt, hvt'⟩ := h .validTo
  obtain ⟨htt, htt'⟩ := h .transactionTo
  constructor
  · exact hvt' ▸ ((h .validFrom).2 _ hvt).mpr hvalid
  · exact htt' ▸ ((h .transactionFrom).2 _ htt).mpr htransaction

/-- A window finds intervals as its rectangle does. -/
theorem Shows.finds_iff (h : m.Shows w r) (hends : ∀ axis, ends.get axis ≤ m.now) :
    (Ends.millis r).Finds nowMillis (ends.map m.collapse) ↔ w.Finds m.now ends := by
  have ha := hends .validFrom
  have hb := hends .validTo
  have hc := hends .transactionFrom
  have hd := hends .transactionTo
  obtain ⟨-, hvf⟩ := h .validFrom
  obtain ⟨hvt, hvt'⟩ := h .validTo
  obtain ⟨-, htf⟩ := h .transactionFrom
  obtain ⟨htt, htt'⟩ := h .transactionTo
  simp only [Ends.get] at ha hb hc hd hvf hvt hvt' htf htt htt'
  simp only [Ends.Finds, Ends.Meets, Ends.millis, Ends.map, Ends.ofFn, Ends.get, Nat.le_min]
  rw [hvt', htt', hvf _ hb, hvf _ htt, hvf _ hd, htf _ hd, collapse_le_iff ha hvt,
    collapse_le_iff hc htt, collapse_eq_now_iff hb]

end BitemporalMapper

-- ---------------------------------------------------------------------------
-- Bounds of conditions
-- ---------------------------------------------------------------------------

namespace BitemporalCondition

variable {c : BitemporalCondition} {m : BitemporalMapper} {w : Ends Nat} {r : Rectangle}

/-- A bound gives a count of a mapper. One that is not set gives the open side. -/
def ReadsBound (m : BitemporalMapper) (axis : Axis) : Option Bound → Nat → Prop
  | none, n => n = m.openWindow.get axis
  | some bound, n => m.Reads bound.value n

def Reads (c : BitemporalCondition) (m : BitemporalMapper) (w : Ends Nat) : Prop :=
  ∀ axis, ReadsBound m axis (c.bounds.get axis) (w.get axis)

/-- A bound that is set denotes an instant or is refused. -/
theorem readInstant_value_ne_none (bound : Bound) : m.readInstant bound.value ≠ .ok none := by
  have hread : m.format.read bound.value ≠ .ok none := by
    cases bound with
    | millis n =>
      simp only [Bound.value, InstantFormat.read]
      split <;> simp
    | text s =>
      intro h
      obtain ⟨n, -, hn⟩ := map_ok.mp h
      cases hn
  unfold BitemporalMapper.readInstant
  split
  · simp
  · contradiction
  · split <;> simp

/-- The window of a condition that a mapper accepts. -/
theorem rectangle_ok (h : c.rectangle m = .ok r) : ∃ w, c.Reads m w ∧ m.Shows w r := by
  have hside : ∀ axis, ∃ n,
      ReadsBound m axis (c.bounds.get axis) n ∧ m.StandsFor axis (r.get axis) n := by
    intro axis
    have haxis := Ends.forAll?_ok.mp h axis
    cases hbound : c.bounds.get axis with
    | none =>
      rw [hbound] at haxis
      rw [← Except.ok.inj haxis]
      exact ⟨_, rfl, BitemporalMapper.standsFor_open⟩
    | some bound =>
      rw [hbound] at haxis
      obtain ⟨read, hread, hi⟩ := map_ok.mp haxis
      cases read with
      | none => exact absurd hread (readInstant_value_ne_none bound)
      | some i =>
        obtain ⟨n, hreads, hmillis⟩ := BitemporalMapper.readInstant_some_iff.mp hread
        rw [← hi]
        exact ⟨n, hreads, BitemporalMapper.standsFor_collapse hreads.2 hmillis⟩
  choose n hreads hshows using hside
  exact ⟨Ends.ofFn n, fun axis => by simpa only [Ends.get_ofFn] using hreads axis,
    fun axis => by simpa only [Ends.get_ofFn] using hshows axis⟩

end BitemporalCondition

end Bitemporal
