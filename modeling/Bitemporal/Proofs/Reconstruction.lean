import Bitemporal.Proofs.RectangleLaws
import Bitemporal.Proofs.StandardMapper

/-!
# What rectangles find among stored records

A rectangle whose windows run forwards finds the records of the standard mapper by one formula on
the eight bounds. A rectangle with a window that runs backwards holds no point at all and still
finds records, except where its window of valid time is the open end alone:
`predicate_has_points_iff` says for which rectangles every find shares a point with the rectangle.
-/

namespace Bitemporal

open BitemporalMapper (Forward partitionOf)

-- ---------------------------------------------------------------------------
-- Points
-- ---------------------------------------------------------------------------

namespace Ends

/-- A point of valid and transaction time lies in a window, or in an interval. -/
def Contains (window : Ends Nat) (v t : Nat) : Prop :=
  window.validFrom ≤ v ∧ v ≤ window.validTo ∧ window.transactionFrom ≤ t ∧ t ≤ window.transactionTo

/-- Forward windows and intervals meet in a point. -/
theorem meets_iff_contains {r ends : Ends Instant} (hr : Forward r) (hf : Forward ends) :
    r.millis.Meets ends.millis ↔ ∃ v t, r.millis.Contains v t ∧ ends.millis.Contains v t := by
  obtain ⟨hvalid, htransaction⟩ := hr
  obtain ⟨hvalid', htransaction'⟩ := hf
  simp only [Meets, Contains, millis, map, ofFn, get]
  constructor
  · intro h
    exact ⟨max r.validFrom.millis ends.validFrom.millis,
      max r.transactionFrom.millis ends.transactionFrom.millis, by omega⟩
  · rintro ⟨v, t, hr, hends⟩
    omega

theorem finds_iff_meets {now : Nat} {window ends : Ends Nat}
    (htransaction : window.transactionFrom ≤ window.transactionTo)
    (h : window.validFrom ≤ window.transactionFrom) :
    window.Finds now ends ↔ window.Meets ends := by
  unfold Finds Meets
  omega

end Ends

-- ---------------------------------------------------------------------------
-- Rectangles that run forwards
-- ---------------------------------------------------------------------------

namespace Rectangle

variable {field : String} {m : BitemporalMapper} {record : Record} {s : StoredInterval}
  {r : Rectangle} {ends : Ends Instant} {β : Type} [One β]

/-- A forward rectangle finds a stored record by its formula. If the window of valid time starts no
later than the window of transaction time does, it finds the records that it meets. -/
theorem predicate_finds_stored (boost : β) (hm : BitemporalMapper.standard field = .ok m)
    (hs : m.store record = .ok (some s)) (hr : Forward r) :
    ∃ ends, m.readEnds record = .ok (ends.map some) ∧ Forward ends ∧
      ((r.predicate field boost).isMatch s.fields = true ↔
        (Ends.millis r).Finds nowMillis ends.millis) ∧
      (r.validFrom.millis ≤ r.transactionFrom.millis →
        ((r.predicate field boost).isMatch s.fields = true ↔
          (Ends.millis r).Meets ends.millis)) := by
  obtain ⟨ends, hread, hf, hstored⟩ := BitemporalMapper.standard_store hm hs
  have hfinds := isMatch_predicate_forward boost hr hstored hf
  refine ⟨ends, hread, hf, hfinds, fun h => ?_⟩
  rw [hfinds, Ends.finds_iff_meets]
  · exact hr.2
  · exact h

/-- An interval whose valid end is open, under a window that starts before the interval's
transaction time stops. -/
theorem predicate_finds_stored_openValid :
    ∃ m s, BitemporalMapper.standard "name" = .ok m ∧
      m.store (BitemporalMapper.recordOf ⟨0, nowMillis, 5, 30⟩) = .ok (some s) ∧
      (predicate ⟨⟨10, by decide⟩, .now, ⟨20, by decide⟩, .now⟩ "name" (1 : Binary64)).isMatch
        s.fields = true := by
  obtain ⟨m, hm⟩ : ∃ m, BitemporalMapper.standard "name" = .ok m :=
    BitemporalMapper.exists_standard (by decide)
  let ends : Ends Instant := ⟨.earliest, .now, ⟨5, by decide⟩, ⟨30, by decide⟩⟩
  have hf : Forward ends := ⟨by decide, by decide⟩
  have hs := BitemporalMapper.store_recordOf hm hf
  have hr : Forward ⟨⟨10, by decide⟩, .now, ⟨20, by decide⟩, .now⟩ := ⟨by decide, by decide⟩
  obtain ⟨found, hread, -, hiff, -⟩ := predicate_finds_stored (1 : Binary64) hm hs hr
  rw [BitemporalMapper.readEnds_recordOf hm, Except.ok.injEq] at hread
  obtain rfl := Ends.map_some_inj hread
  exact ⟨m, _, hm, hs, hiff.mpr (by decide)⟩

-- ---------------------------------------------------------------------------
-- Rectangles that run backwards
-- ---------------------------------------------------------------------------

/-- A current record whose valid time has ended is found by every rectangle whose window of valid
time has one bound before that end and one behind the start. -/
theorem accepts_current {start stop : Instant} (hstop : stop.isNow = false)
    (hstart : start.millis ≤ max r.validFrom.millis r.validTo.millis)
    (h : min r.validFrom.millis r.validTo.millis ≤ stop.millis) :
    r.Accepts ⟨start, stop, .earliest, .now⟩ := by
  unfold Accepts
  split
  · exact Instant.isNow_now
  · rename_i hne
    rw [partitions_eq_nil, not_and, Bool.not_eq_true] at hne
    simp only [partitionOf, Partition.classify, Instant.isNow_now, hstop, mem_partitions, Admits,
      Touches, Partition.axes, Instant.earliest, Nat.zero_le, and_true]
    exact ⟨⟨hne, by simp⟩, hstart, h⟩

/-- A window of valid time that starts at the open end finds no closed valid ends, and open ones
only with a window of transaction time that runs forwards. -/
theorem not_accepts_of_open (hopen : r.validFrom.isNow = true)
    (hvalid : r.validFrom.millis ≤ r.validTo.millis)
    (htransaction : r.transactionTo.millis < r.transactionFrom.millis) : ¬ r.Accepts ends := by
  have htf := r.transactionFrom.le_now
  have hb := ends.validTo.le_now
  rw [Instant.isNow_iff] at hopen
  unfold Accepts
  split
  · rename_i hnil
    rw [partitions_eq_nil, fullValidWindow, Bool.and_eq_true, Instant.isEarliest_iff, hopen] at hnil
    exact absurd hnil.2.1 (by decide)
  · rintro ⟨hmem, hadmits⟩
    rw [mem_partitions, partitionOf, Partition.mem_axes_classify] at hmem
    simp only [true_imp_iff, reduceCtorEq, false_imp_iff, and_true,
      Instant.isNow_eq_false_iff] at hmem
    have hlt : ends.validTo.millis < nowMillis := by omega
    have hclosed := Instant.isNow_eq_false_iff.mpr hlt
    cases h : ends.transactionTo.isNow <;>
      simp only [partitionOf, Partition.classify, hclosed, h, Admits, Touches] at hadmits <;> omega

/-- A rectangle finds only records that it shares a point with, unless a window runs backwards and
the window of valid time has a bound before the open end. -/
theorem predicate_has_points_iff (boost : β) (hm : BitemporalMapper.standard field = .ok m)
    (r : Rectangle) :
    (∀ record s, m.store record = .ok (some s) →
      (r.predicate field boost).isMatch s.fields = true →
        ∃ ends, m.readEnds record = .ok (ends.map some) ∧
          ∃ v t, (Ends.millis r).Contains v t ∧ (Ends.millis ends).Contains v t) ↔
      r.validFrom.millis ≤ r.validTo.millis ∧
        (r.transactionFrom.millis ≤ r.transactionTo.millis ∨ r.validFrom.isNow = true) := by
  constructor
  · intro hlaw
    by_contra hcond
    rw [Instant.isNow_iff] at hcond
    have hvf := r.validFrom.le_now
    -- The rectangle is empty, and its window of valid time has a bound before the open end.
    have hempty : ∀ v t, ¬ (Ends.millis r).Contains v t := by
      rintro v t ⟨ha, hb, hc, hd⟩
      exact hcond ⟨Nat.le_trans ha hb, .inl (Nat.le_trans hc hd)⟩
    obtain ⟨stop, hstop, hle⟩ : ∃ stop : Instant, stop.isNow = false ∧
        min r.validFrom.millis r.validTo.millis ≤ stop.millis := by
      simp only [Instant.isNow_eq_false_iff]
      by_cases h : r.validTo.millis < r.validFrom.millis
      · exact ⟨r.validTo, by omega, by omega⟩
      · exact ⟨r.validFrom, by omega, by omega⟩
    have hf : Forward ⟨.earliest, stop, .earliest, .now⟩ := ⟨Nat.zero_le _, Nat.zero_le _⟩
    have hmatch := (isMatch_predicate boost
      (BitemporalMapper.storedAs_standard hm _) hf).mpr (accepts_current hstop (Nat.zero_le _) hle)
    obtain ⟨-, -, v, t, hv, -⟩ := hlaw _ _ (BitemporalMapper.store_recordOf hm hf) hmatch
    exact hempty v t hv
  · rintro ⟨hvalid, hcase⟩ record s hs hmatch
    obtain ⟨ends, hread, hf, hstored⟩ := BitemporalMapper.standard_store hm hs
    rw [isMatch_predicate boost hstored hf] at hmatch
    refine ⟨ends, hread, ?_⟩
    rcases Nat.lt_or_ge r.transactionTo.millis r.transactionFrom.millis with h | h
    · have hopen := hcase.resolve_left (Nat.not_le.mpr h)
      exact absurd hmatch (not_accepts_of_open hopen hvalid h)
    · have hfinds := (accepts_forward ⟨hvalid, h⟩ hf).mp hmatch
      exact (Ends.meets_iff_contains ⟨hvalid, h⟩ hf).mp hfinds.1

theorem predicate_has_points_forward :
    ∃ m, BitemporalMapper.standard "name" = .ok m ∧
      ∀ record s, m.store record = .ok (some s) →
        (predicate ⟨⟨10, by decide⟩, ⟨20, by decide⟩, .earliest, .now⟩ "name"
          (1 : Binary64)).isMatch s.fields = true →
        ∃ ends, m.readEnds record = .ok (ends.map some) ∧ ∃ v t,
          (Ends.mk 10 20 0 nowMillis).Contains v t ∧ (Ends.millis ends).Contains v t := by
  obtain ⟨m, hm⟩ : ∃ m, BitemporalMapper.standard "name" = .ok m :=
    BitemporalMapper.exists_standard (by decide)
  exact ⟨m, hm, (predicate_has_points_iff (1 : Binary64) hm
    ⟨⟨10, by decide⟩, ⟨20, by decide⟩, .earliest, .now⟩).mpr ⟨by decide, .inl (by decide)⟩⟩

/-- The window of valid time from 10 to 5 holds no instant, and still finds a record that reaches
across it and one that lies between its bounds. -/
theorem predicate_finds_without_points :
    ∃ m s between, BitemporalMapper.standard "name" = .ok m ∧
      m.store (BitemporalMapper.recordOf
        (Ends.millis ⟨.earliest, ⟨20, by decide⟩, .earliest, .now⟩)) = .ok (some s) ∧
      (predicate ⟨⟨10, by decide⟩, ⟨5, by decide⟩, .earliest, .now⟩ "name"
        (1 : Binary64)).isMatch s.fields = true ∧
      m.store (BitemporalMapper.recordOf
        (Ends.millis ⟨⟨7, by decide⟩, ⟨7, by decide⟩, .earliest, .now⟩)) = .ok (some between) ∧
      (predicate ⟨⟨10, by decide⟩, ⟨5, by decide⟩, .earliest, .now⟩ "name"
        (1 : Binary64)).isMatch between.fields = true ∧
      ∀ v t, ¬ (Ends.mk 10 5 0 nowMillis).Contains v t := by
  obtain ⟨m, hm⟩ : ∃ m, BitemporalMapper.standard "name" = .ok m :=
    BitemporalMapper.exists_standard (by decide)
  have hf : Forward ⟨.earliest, ⟨20, by decide⟩, .earliest, .now⟩ := ⟨by decide, by decide⟩
  have hf' : Forward ⟨⟨7, by decide⟩, ⟨7, by decide⟩, .earliest, .now⟩ := ⟨by decide, by decide⟩
  refine ⟨m, _, _, hm, BitemporalMapper.store_recordOf hm hf, ?_,
    BitemporalMapper.store_recordOf hm hf', ?_, ?_⟩
  · have hstored := BitemporalMapper.storedAs_standard hm
      ⟨.earliest, ⟨20, by decide⟩, .earliest, .now⟩
    exact (isMatch_predicate _ hstored hf).mpr
      (accepts_current (by decide) (by decide) (by decide))
  · have hstored := BitemporalMapper.storedAs_standard hm
      ⟨⟨7, by decide⟩, ⟨7, by decide⟩, .earliest, .now⟩
    exact (isMatch_predicate _ hstored hf').mpr
      (accepts_current (by decide) (by decide) (by decide))
  · rintro v t ⟨hlow, hhigh, -, -⟩
    exact absurd (Nat.le_trans hlow hhigh) (by decide)

end Rectangle

end Bitemporal
