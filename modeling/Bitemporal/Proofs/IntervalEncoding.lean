import Bitemporal.Proofs.Acceptance

/-!
# Stored fields and intervals determine each other

A partition drops the ends that are open, and its name alone tells which these are. `decode?` brings
them back, so different intervals are stored as different maps. The maps that come about are those
of one partition: its ends and the mark of current records and nothing else, the stored closing
ends before the open end and not before their start.
-/

namespace Bitemporal.BitemporalMapper

variable {m : BitemporalMapper} {record : Record} {raw : Ends Nat} {ends : Ends Instant}
  {doc other : Fields} {p : Partition}

-- ---------------------------------------------------------------------------
-- Counts of a mapper and general counts
-- ---------------------------------------------------------------------------

/-- The count of a mapper that a general one stands for. -/
def expand (m : BitemporalMapper) (n : Nat) : Nat := if n = nowMillis then m.now else n

theorem expand_collapse {n : Nat} (h : n ≤ m.now) : m.expand (m.collapse n) = n := by
  have := m.now_le
  unfold expand collapse
  split <;> split <;> omega

theorem expand_le_now {n : Nat} (h : n < m.now ∨ n = nowMillis) : m.expand n ≤ m.now := by
  unfold expand
  split <;> omega

theorem collapse_expand {n : Nat} (h : n < m.now ∨ n = nowMillis) :
    m.collapse (m.expand n) = n := by
  unfold expand collapse
  split <;> split <;> omega

theorem collapse_range {n : Nat} (h : n ≤ m.now) :
    m.collapse n < m.now ∨ m.collapse n = nowMillis := by
  unfold collapse
  split <;> omega

-- ---------------------------------------------------------------------------
-- Decoding
-- ---------------------------------------------------------------------------

/-- Whether a document has fields of a partition. All partitions store the start of valid time. -/
def present (m : BitemporalMapper) (doc : Fields) (p : Partition) : Bool :=
  (doc.get? (p.fieldName m.field .validFrom)).isSome

/-- The count of an end in a partition; an end that is not stored is open. -/
def endIn (m : BitemporalMapper) (doc : Fields) (p : Partition) (axis : Axis) : Nat :=
  m.expand (((doc.get? (p.fieldName m.field axis)).map Int.toNat).getD nowMillis)

/-- The interval that a document stores in the one partition that it has fields of. -/
def decode? (m : BitemporalMapper) (doc : Fields) : Option (Ends Nat) :=
  (Partition.all.find? (m.present doc)).map fun p => Ends.ofFn (m.endIn doc p)

theorem decode?_congr (h : doc.get? = other.get?) : m.decode? doc = m.decode? other := by
  have hpresent : m.present doc = m.present other := by
    funext p
    rw [present, present, h]
  have hend : m.endIn doc = m.endIn other := by
    funext p axis
    rw [endIn, endIn, h]
  rw [decode?, decode?, hpresent, hend]

theorem validFrom_mem_axes (p : Partition) : .validFrom ∈ p.axes := by
  cases p <;> simp [Partition.axes]

theorem StoredAs.present_iff (h : StoredAs m.field ends doc) :
    m.present doc p = true ↔ p = partitionOf ends := by
  rw [present]
  by_cases hp : p = partitionOf ends
  · rw [h.get?_own hp (validFrom_mem_axes p)]
    exact iff_of_true rfl hp
  · rw [h.get?_other hp]
    exact iff_of_false (by simp) hp

theorem find?_partition (test : Partition → Bool) (h : ∀ q, test q = true ↔ q = p) :
    Partition.all.find? test = some p := by
  cases hfound : Partition.all.find? test with
  | none =>
    have hnone := List.find?_eq_none.mp hfound p (by cases p <;> decide)
    exact absurd ((h p).mpr rfl) hnone
  | some q => rw [(h q).mp (List.find?_some hfound)]

theorem isNow_of_not_mem {axis : Axis} (h : axis ∉ (partitionOf ends).axes) :
    (ends.get axis).isNow = true := by
  cases hopen : (ends.get axis).isNow with
  | true => rfl
  | false =>
    refine absurd ((Partition.mem_axes_classify ..).mpr ⟨?_, ?_⟩) h
    · rintro rfl
      exact hopen
    · rintro rfl
      exact hopen

theorem decode?_storedAs (h : StoredAs m.field ends doc) (hraw : ∀ axis, raw.get axis ≤ m.now)
    (hmillis : ends.millis = raw.map m.collapse) : m.decode? doc = some raw := by
  rw [decode?, find?_partition (m.present doc) fun q => h.present_iff, Option.map_some]
  refine congrArg some (Ends.ext_get fun axis => ?_)
  rw [Ends.get_ofFn, endIn]
  by_cases haxis : axis ∈ (partitionOf ends).axes
  · rw [h.get?_own rfl haxis, Option.map_some, Option.getD_some, Int.toNat_natCast,
      millis_get hmillis, expand_collapse (hraw axis)]
  · have hopen := isNow_of_not_mem haxis
    rw [h.axis, if_neg fun hand => haxis hand.2, Option.map_none, Option.getD_none,
      ← expand_collapse (hraw axis), ← millis_get hmillis, Instant.eq_now_of_isNow hopen]
    rfl

-- ---------------------------------------------------------------------------
-- The maps of stored intervals
-- ---------------------------------------------------------------------------

structure Spans (m : BitemporalMapper) (raw : Ends Nat) : Prop where
  range : ∀ axis, raw.get axis ≤ m.now
  valid : raw.validFrom ≤ raw.validTo
  transaction : raw.transactionFrom ≤ raw.transactionTo

/-- A map has the ends of one partition and the mark of current records, and nothing else. Its
counts are those before the mapper's open end and the general open end; the closing ends that it
has are closed and not before their start. -/
structure PartitionMap (m : BitemporalMapper) (p : Partition) (counts : Ends Nat) (doc : Fields) :
    Prop where
  fields : ∀ name v, doc.get? name = some v ↔
    (∃ axis ∈ p.axes, name = p.fieldName m.field axis ∧ v = counts.get axis) ∨
      (name = m.flagField ∧ v = if p = .t1 ∨ p = .t2 then 1 else 0)
  range : ∀ axis ∈ p.axes, counts.get axis < m.now ∨ counts.get axis = nowMillis
  validClosed : .validTo ∈ p.axes → counts.validFrom ≤ counts.validTo ∧ counts.validTo < m.now
  transactionClosed : .transactionTo ∈ p.axes →
    counts.transactionFrom ≤ counts.transactionTo ∧ counts.transactionTo < m.now

theorem transactionOpen_iff : p.transactionOpen = true ↔ p = .t1 ∨ p = .t2 := by
  cases p <;> simp [Partition.transactionOpen]

theorem get?_stored_iff (m : BitemporalMapper) (ends : Ends Instant) (name : String) (v : Int) :
    (m.stored ends).fields.get? name = some v ↔
      (∃ axis ∈ (partitionOf ends).axes,
        name = (partitionOf ends).fieldName m.field axis ∧ v = ends.millis.get axis) ∨
      (name = m.flagField ∧
        v = if partitionOf ends = .t1 ∨ partitionOf ends = .t2 then 1 else 0) := by
  rw [get?_stored, mem_entries]
  simp only [transactionOpen_iff, flagField, Ends.millis, Ends.get_map, eq_comm (a := name),
    eq_comm (a := v)]

theorem isNow_get_iff {axis : Axis} (hmillis : ends.millis = raw.map m.collapse)
    (hraw : raw.get axis ≤ m.now) : (ends.get axis).isNow = true ↔ raw.get axis = m.now := by
  rw [Instant.isNow, decide_eq_true_eq, millis_get hmillis, collapse_eq_now_iff hraw]

theorem collapse_lt_now (axis : Axis) (hmillis : ends.millis = raw.map m.collapse)
    (hraw : raw.get axis ≤ m.now) (hclosed : (ends.get axis).isNow = false) :
    m.collapse (raw.get axis) < m.now := by
  refine (collapse_range hraw).resolve_right fun hopen => ?_
  rw [(isNow_get_iff hmillis hraw).mpr ((collapse_eq_now_iff hraw).mp hopen)] at hclosed
  cases hclosed

theorem Spans.partitionMap (h : m.Spans raw) (hmillis : ends.millis = raw.map m.collapse) :
    m.PartitionMap (partitionOf ends) ends.millis (m.stored ends).fields := by
  have hclosed := Partition.mem_axes_classify ends.validTo ends.transactionTo
  refine ⟨get?_stored_iff m ends, fun axis _ => ?_, fun hmem => ?_, fun hmem => ?_⟩
  · rw [hmillis, Ends.get_map]
    exact collapse_range (h.range axis)
  · have hstop := ((hclosed .validTo).mp hmem).1 rfl
    rw [hmillis]
    exact ⟨(collapse_le_iff (h.range .validFrom) (h.range .validTo)).mpr h.valid,
      collapse_lt_now .validTo hmillis (h.range .validTo) hstop⟩
  · have hstop := ((hclosed .transactionTo).mp hmem).2 rfl
    rw [hmillis]
    exact ⟨(collapse_le_iff (h.range .transactionFrom) (h.range .transactionTo)).mpr h.transaction,
      collapse_lt_now .transactionTo hmillis (h.range .transactionTo) hstop⟩

theorem expand_closed {n : Nat} (h : n < m.now) : m.expand n = n := by
  have := m.now_le
  unfold expand
  split <;> omega

namespace PartitionMap

variable {counts : Ends Nat}

def interval (m : BitemporalMapper) (p : Partition) (counts : Ends Nat) : Ends Nat :=
  Ends.ofFn fun axis => if axis ∈ p.axes then m.expand (counts.get axis) else m.now

theorem interval_get_of_mem {axis : Axis} (h : axis ∈ p.axes) :
    (interval m p counts).get axis = m.expand (counts.get axis) := by
  rw [interval, Ends.get_ofFn, if_pos h]

theorem interval_get_of_not_mem {axis : Axis} (h : axis ∉ p.axes) :
    (interval m p counts).get axis = m.now := by
  rw [interval, Ends.get_ofFn, if_neg h]

theorem interval_le_now (h : m.PartitionMap p counts doc) (axis : Axis) :
    (interval m p counts).get axis ≤ m.now := by
  by_cases hmem : axis ∈ p.axes
  · rw [interval_get_of_mem hmem]
    exact expand_le_now (h.range axis hmem)
  · exact Nat.le_of_eq (interval_get_of_not_mem hmem)

theorem interval_le (h : m.PartitionMap p counts doc) (start stop : Axis) (hstart : start ∈ p.axes)
    (hclosed : stop ∈ p.axes → counts.get start ≤ counts.get stop ∧ counts.get stop < m.now) :
    (interval m p counts).get start ≤ (interval m p counts).get stop := by
  by_cases hstop : stop ∈ p.axes
  · obtain ⟨hle, hlt⟩ := hclosed hstop
    rw [interval_get_of_mem hstart, interval_get_of_mem hstop, expand_closed hlt,
      expand_closed (Nat.lt_of_le_of_lt hle hlt)]
    exact hle
  · -- An open end is the last instant there is.
    rw [interval_get_of_not_mem hstop]
    exact h.interval_le_now start

theorem spans (h : m.PartitionMap p counts doc) : m.Spans (interval m p counts) := by
  have hvalid : .validFrom ∈ p.axes := validFrom_mem_axes p
  have htransaction : .transactionFrom ∈ p.axes := by cases p <;> simp [Partition.axes]
  exact ⟨h.interval_le_now, h.interval_le .validFrom .validTo hvalid h.validClosed,
    h.interval_le .transactionFrom .transactionTo htransaction h.transactionClosed⟩

theorem millis_of_mem (h : m.PartitionMap p counts doc) {axis : Axis}
    (hmillis : ends.millis = (interval m p counts).map m.collapse) (hmem : axis ∈ p.axes) :
    (ends.get axis).millis = counts.get axis := by
  rw [millis_get hmillis, interval_get_of_mem hmem, collapse_expand (h.range axis hmem)]

theorem isNow_iff_not_mem (h : m.PartitionMap p counts doc) (axis : Axis)
    (hmillis : ends.millis = (interval m p counts).map m.collapse)
    (hclosed : axis ∈ p.axes → counts.get axis < m.now) :
    (ends.get axis).isNow = true ↔ axis ∉ p.axes := by
  have hle := m.now_le
  by_cases hmem : axis ∈ p.axes
  · have hlt := hclosed hmem
    rw [Instant.isNow, h.millis_of_mem hmillis hmem, decide_eq_true_eq]
    exact iff_of_false (by omega) (not_not.mpr hmem)
  · rw [Instant.isNow, millis_get hmillis, interval_get_of_not_mem hmem, decide_eq_true_eq]
    exact iff_of_true (if_pos rfl) hmem

theorem partitionOf_eq (h : m.PartitionMap p counts doc)
    (hmillis : ends.millis = (interval m p counts).map m.collapse) : partitionOf ends = p := by
  have hvalid : ends.validTo.isNow = true ↔ .validTo ∉ p.axes :=
    h.isNow_iff_not_mem .validTo hmillis fun hmem => (h.validClosed hmem).2
  have htransaction : ends.transactionTo.isNow = true ↔ .transactionTo ∉ p.axes :=
    h.isNow_iff_not_mem .transactionTo hmillis fun hmem => (h.transactionClosed hmem).2
  rw [partitionOf, Partition.classify]
  cases p <;> simp_all [Partition.axes]

theorem get?_stored_eq (h : m.PartitionMap p counts doc)
    (hmillis : ends.millis = (interval m p counts).map m.collapse) :
    (m.stored ends).fields.get? = doc.get? := by
  funext name
  ext v
  rw [get?_stored_iff, h.partitionOf_eq hmillis, h.fields]
  refine or_congr_left (exists_congr fun axis => and_congr_right fun hmem => ?_)
  rw [Ends.millis, Ends.get_map, h.millis_of_mem hmillis hmem]

end PartitionMap

-- ---------------------------------------------------------------------------
-- Records
-- ---------------------------------------------------------------------------

theorem denotes_recordUnder (hcolumns : m.columns.toList.Nodup) (h : m.Spans raw) :
    m.Denotes (recordUnder m.columns raw) raw := by
  intro axis
  rw [valueAt, column_recordUnder hcolumns]
  exact reads_int (h.range axis)

theorem Denotes.store_spans (h : m.Denotes record raw) (hs : m.Spans raw) :
    ∃ ends : Ends Instant, ends.millis = raw.map m.collapse ∧
      m.store record = .ok (some (m.stored ends)) := by
  obtain ⟨ends, hmillis, -⟩ := h.exists_ends
  exact ⟨ends, hmillis, (Outcome.stored h hs.valid hs.transaction hmillis).store_eq⟩

theorem Denotes.decode?_eq {s : StoredInterval} (h : m.Denotes record raw)
    (hs : m.store record = .ok (some s)) : m.decode? s.fields = some raw := by
  obtain ⟨ends, hread, -, rfl⟩ := store_some_iff.mp hs
  obtain ⟨raw', hraw', hmillis⟩ := readEnds_some_iff.mp hread
  have hsame : raw' = raw := Ends.ext_get fun axis => (hraw' axis).unique (h axis)
  subst hsame
  exact decode?_storedAs (storedAs_stored m ends) (fun axis => (h axis).2) hmillis

/-- Stored fields tell the interval that a record denotes, and every map of one partition is stored
of some interval. With the default open end, the counts of such maps are all instants. -/
theorem encoding_bijective (hcolumns : m.columns.toList.Nodup) :
    (∀ raw, m.Spans raw → m.Denotes (recordUnder m.columns raw) raw) ∧
    (∀ record raw, m.Denotes record raw → m.Spans raw → ∃ s, m.store record = .ok (some s) ∧
      m.decode? s.fields = some raw ∧
      (s.fields.get? m.flagField = some 1 ↔ raw.transactionTo = m.now)) ∧
    (∀ record raw s record' raw' s', m.Denotes record raw → m.store record = .ok (some s) →
      m.Denotes record' raw' → m.store record' = .ok (some s') →
      s.fields.get? = s'.fields.get? → raw = raw') ∧
    ∀ doc, (∃ p counts, m.PartitionMap p counts doc) ↔
      ∃ raw s, m.Spans raw ∧ m.store (recordUnder m.columns raw) = .ok (some s) ∧
        s.fields.get? = doc.get? := by
  refine ⟨fun raw hraw => denotes_recordUnder hcolumns hraw, fun record raw h hraw => ?_, ?_,
    fun doc => ⟨?_, ?_⟩⟩
  · obtain ⟨ends, hmillis, hstore⟩ := h.store_spans hraw
    refine ⟨_, hstore, h.decode?_eq hstore, ?_⟩
    have hopen : ends.transactionTo.isNow = true ↔ raw.transactionTo = m.now :=
      isNow_get_iff hmillis (hraw.range .transactionTo)
    rw [flagField, (storedAs_stored m ends).flag, ← hopen]
    cases ends.transactionTo.isNow <;> simp
  · intro record raw s record' raw' s' h hs h' hs' hsame
    have hdecoded := h.decode?_eq hs
    rw [decode?_congr hsame, h'.decode?_eq hs'] at hdecoded
    exact (Option.some.inj hdecoded).symm
  · rintro ⟨p, counts, hmap⟩
    obtain ⟨ends, hmillis, hstore⟩ :=
      (denotes_recordUnder hcolumns hmap.spans).store_spans hmap.spans
    exact ⟨_, _, hmap.spans, hstore, hmap.get?_stored_eq hmillis⟩
  · rintro ⟨raw, s, hraw, hs, hsame⟩
    obtain ⟨ends, hmillis, hstore⟩ := (denotes_recordUnder hcolumns hraw).store_spans hraw
    obtain rfl := Option.some.inj (Except.ok.inj (hstore.symm.trans hs))
    have hmap := hraw.partitionMap hmillis
    exact ⟨_, _, fun name v => by rw [← hsame]; exact hmap.fields name v, hmap.range,
      hmap.validClosed, hmap.transactionClosed⟩

/-- An interval whose valid time starts at the open end. -/
theorem encoding_bijective_open :
    ∃ m s, standard "name" = .ok m ∧ m.columns.toList.Nodup ∧
      m.store (recordUnder m.columns ⟨nowMillis, nowMillis, 5, 30⟩) = .ok (some s) ∧
      m.decode? s.fields = some ⟨nowMillis, nowMillis, 5, 30⟩ := by
  obtain ⟨m, hm⟩ : ∃ m, standard "name" = .ok m := exists_standard (by decide)
  have hnow := standard_now hm
  have hcolumns := nodup_columns hm
  have hraw : m.Spans ⟨nowMillis, nowMillis, 5, 30⟩ := by
    refine ⟨fun axis => ?_, Nat.le_refl _, by decide⟩
    rw [hnow]
    cases axis <;> decide
  obtain ⟨hgiven, hstored, -, -⟩ := encoding_bijective hcolumns
  obtain ⟨s, hs, hdecoded, -⟩ := hstored _ _ (hgiven _ hraw) hraw
  exact ⟨m, s, hm, hcolumns, hs, hdecoded⟩

end Bitemporal.BitemporalMapper
