import Mathlib.Data.List.Nodup
import Bitemporal.Mapper
import Bitemporal.Proofs.MapLaws
import Bitemporal.Proofs.NameLaws

/-!
# What a bitemporal mapper accepts and stores

A mapper stores a record exactly when all four columns denote instants and both axes run forwards.
What it stores is then read off the ends: `StoredAs` says what a document holds under every name of
the field. Instants are millisecond counts up to the mapper's own open end, which `collapse` turns
into the general one without disturbing their order.
-/

namespace Bitemporal

theorem bind_ok {ε α β : Type} {x : Except ε α} {f : α → Except ε β} {b : β} :
    x >>= f = .ok b ↔ ∃ a, x = .ok a ∧ f a = .ok b := by
  cases x <;> simp [bind, Except.bind]

theorem pure_ok {ε α : Type} {a b : α} : (pure a : Except ε α) = .ok b ↔ a = b := by
  simp [pure, Except.pure]

theorem map_ok {ε α β : Type} {x : Except ε α} {f : α → β} {b : β} :
    x.map f = .ok b ↔ ∃ a, x = .ok a ∧ f a = b := by
  cases x <;> simp [Except.map]

theorem mapError_ok {ε δ α : Type} {x : Except ε α} {f : ε → δ} {a : α} :
    x.mapError f = .ok a ↔ x = .ok a := by
  cases x <;> simp [Except.mapError]

namespace Ends

variable {α ε : Type}

theorem forAll?_ok {f : Axis → Except ε α} {ends : Ends α} :
    forAll? f = .ok ends ↔ ∀ axis, f axis = .ok (ends.get axis) := by
  simp only [forAll?, bind_ok, pure_ok]
  constructor
  · rintro ⟨a, ha, b, hb, c, hc, d, hd, rfl⟩ axis
    cases axis <;> assumption
  · intro h
    exact ⟨_, h .validFrom, _, h .validTo, _, h .transactionFrom, _, h .transactionTo, rfl⟩

theorem ext_get {e f : Ends α} (h : ∀ axis, e.get axis = f.get axis) : e = f := by
  obtain ⟨a, b, c, d⟩ := e
  obtain ⟨a', b', c', d'⟩ := f
  have ha := h .validFrom
  have hb := h .validTo
  have hc := h .transactionFrom
  have hd := h .transactionTo
  simp only [get] at ha hb hc hd
  rw [ha, hb, hc, hd]

theorem map_some_inj {e f : Ends α} (h : e.map some = f.map some) : e = f :=
  ext_get fun axis => by simpa using congrArg (fun g => g.get axis) h

theorem mem_toList {ends : Ends α} {a : α} : a ∈ ends.toList ↔ ∃ axis, ends.get axis = a := by
  simp only [toList, List.mem_map]
  constructor
  · rintro ⟨axis, -, h⟩
    exact ⟨axis, h⟩
  · rintro ⟨axis, h⟩
    exact ⟨axis, by cases axis <;> simp [Axis.all], h⟩

def millis (ends : Ends Instant) : Ends Nat := ends.map Instant.millis

end Ends

namespace BitemporalMapper

variable {m : BitemporalMapper} {record : Record} {ends : Ends Instant} {s : StoredInterval}

-- ---------------------------------------------------------------------------
-- Reading instants
-- ---------------------------------------------------------------------------

/-- A value denotes a millisecond count that is not later than the mapper's open end. -/
def Reads (m : BitemporalMapper) (v : Value) (n : Nat) : Prop :=
  m.format.read v = .ok (some (n : Int)) ∧ n ≤ m.now

/-- The general millisecond count of one of the mapper's. -/
def collapse (m : BitemporalMapper) (n : Nat) : Nat := if n = m.now then nowMillis else n

theorem Reads.unique {v : Value} {n k : Nat} (hn : m.Reads v n) (hk : m.Reads v k) : n = k := by
  have h := hn.1.symm.trans hk.1
  simp only [Except.ok.injEq, Option.some.injEq, Int.natCast_inj] at h
  exact h

theorem collapse_le_now {n : Nat} (h : n ≤ m.now) : m.collapse n ≤ nowMillis := by
  have := m.now_le
  unfold collapse
  split <;> omega

theorem collapse_le_iff {n k : Nat} (hn : n ≤ m.now) (hk : k ≤ m.now) :
    m.collapse n ≤ m.collapse k ↔ n ≤ k := by
  have := m.now_le
  unfold collapse
  split <;> split <;> omega

theorem collapse_eq_now_iff {n : Nat} (h : n ≤ m.now) : m.collapse n = nowMillis ↔ n = m.now := by
  have := m.now_le
  unfold collapse
  split <;> omega

theorem ofMillis_ok {n : Int} {i : Instant} : Instant.ofMillis n = .ok i ↔ n = i.millis := by
  have := i.le_now
  obtain ⟨k, hk⟩ := i
  unfold Instant.ofMillis
  split
  · simp
    omega
  · split
    · simp
      omega
    · simp
      omega

theorem instantOfMillis_ok {n : Int} {i : Instant} :
    m.instantOfMillis n = .ok i ↔ ∃ k : Nat, n = k ∧ k ≤ m.now ∧ i.millis = m.collapse k := by
  unfold instantOfMillis collapse
  split
  case isTrue hlt =>
    simp only [reduceCtorEq, false_iff, not_exists, not_and]
    intro k hk
    omega
  case isFalse hge =>
    split
    case isTrue heq =>
      subst heq
      simp only [Except.ok.injEq, Int.natCast_inj]
      constructor
      · rintro rfl
        exact ⟨m.now, rfl, Nat.le_refl _, by simp [Instant.now]⟩
      · rintro ⟨k, rfl, -, hi⟩
        exact (Instant.eq_now_of_isNow (by simpa [Instant.isNow] using hi)).symm
    case isFalse hne =>
      rw [ofMillis_ok]
      constructor
      · rintro rfl
        exact ⟨i.millis, rfl, by omega, by rw [if_neg (by omega)]⟩
      · rintro ⟨k, rfl, -, hi⟩
        rw [hi, if_neg (by omega)]

theorem readInstant_some {v : Value} {i : Instant} :
    m.readInstant v = .ok (some i) ↔
      ∃ n, m.format.read v = .ok (some n) ∧ m.instantOfMillis n = .ok i := by
  unfold readInstant
  cases m.format.read v with
  | error e => simp
  | ok o =>
    cases o with
    | none => simp
    | some n => cases h : m.instantOfMillis n <;> simp [h]

theorem readInstant_some_iff {v : Value} {i : Instant} :
    m.readInstant v = .ok (some i) ↔ ∃ n, m.Reads v n ∧ i.millis = m.collapse n := by
  simp only [readInstant_some, instantOfMillis_ok, Reads]
  constructor
  · rintro ⟨_, hread, n, rfl, hn, hi⟩
    exact ⟨n, ⟨hread, hn⟩, hi⟩
  · rintro ⟨n, ⟨hread, hn⟩, hi⟩
    exact ⟨n, hread, n, rfl, hn, hi⟩

theorem Reads.readInstant {v : Value} {n : Nat} (h : m.Reads v n) :
    ∃ i, m.readInstant v = .ok (some i) :=
  ⟨⟨m.collapse n, collapse_le_now h.2⟩, readInstant_some_iff.mpr ⟨n, h, rfl⟩⟩

/-- The instants of a record, as the counts that its columns denote. -/
theorem readEnds_some_iff : m.readEnds record = .ok (ends.map some) ↔
    ∃ raw : Ends Nat, (∀ axis, m.Reads (record.column (m.columns.get axis)) (raw.get axis)) ∧
      ends.millis = raw.map m.collapse := by
  simp only [readEnds, Ends.forAll?_ok, Ends.get_map, readInstant_some_iff]
  constructor
  · intro h
    choose n hreads hmillis using h
    refine ⟨Ends.ofFn n, fun axis => ?_, Ends.ext_get fun axis => ?_⟩
    · rw [Ends.get_ofFn]
      exact hreads axis
    · rw [Ends.millis, Ends.get_map, Ends.get_map, Ends.get_ofFn]
      exact hmillis axis
  · rintro ⟨raw, hreads, hmillis⟩ axis
    refine ⟨raw.get axis, hreads axis, ?_⟩
    simpa [Ends.millis] using congrArg (fun e => e.get axis) hmillis

-- ---------------------------------------------------------------------------
-- Accepting records
-- ---------------------------------------------------------------------------

/-- Both axes of an interval run forwards. -/
def Forward (ends : Ends Instant) : Prop :=
  ends.validFrom.millis ≤ ends.validTo.millis ∧
    ends.transactionFrom.millis ≤ ends.transactionTo.millis

theorem complete_ok {read : Ends (Option Instant)} :
    complete read = .ok ends ↔ read = ends.map some := by
  unfold complete
  rw [Ends.forAll?_ok]
  constructor
  · intro h
    refine Ends.ext_get fun axis => ?_
    have haxis := h axis
    rw [Ends.get_map]
    split at haxis <;> simp_all
  · rintro rfl axis
    rw [Ends.get_map]

theorem checkOrder_ok {start stop : Axis} :
    m.checkOrder ends start stop = .ok () ↔
      (ends.get start).millis ≤ (ends.get stop).millis := by
  unfold checkOrder
  simp only [Instant.after, decide_eq_true_eq]
  split
  case isTrue hlt =>
    simp only [bind_ok]
    constructor
    · rintro ⟨_, _, _, _, h⟩
      cases h
    · intro h
      omega
  case isFalse hge => simpa using hge

theorem validate_ok {read : Ends (Option Instant)} :
    m.validate read = .ok ends ↔ read = ends.map some ∧ Forward ends := by
  simp only [validate, bind_ok, pure_ok, mapError_ok, complete_ok]
  constructor
  · rintro ⟨e, rfl, _, hv, _, ht, rfl⟩
    exact ⟨rfl, checkOrder_ok.mp hv, checkOrder_ok.mp ht⟩
  · rintro ⟨rfl, hv, ht⟩
    exact ⟨ends, rfl, (), checkOrder_ok.mpr hv, (), checkOrder_ok.mpr ht, rfl⟩

/-- A record is stored when its columns denote a forward interval. -/
theorem store_some_iff :
    m.store record = .ok (some s) ↔
      ∃ ends, m.readEnds record = .ok (ends.map some) ∧ Forward ends ∧ s = m.stored ends := by
  simp only [store, bind_ok]
  constructor
  · rintro ⟨read, hread, h⟩
    split at h
    · simp [pure, Except.pure] at h
    · obtain ⟨ends, hends, hs⟩ := bind_ok.mp h
      obtain ⟨rfl, hforward⟩ := validate_ok.mp hends
      exact ⟨ends, hread, hforward, by simpa [pure, Except.pure, eq_comm] using hs⟩
  · rintro ⟨ends, hread, hforward, rfl⟩
    refine ⟨_, hread, ?_⟩
    rw [if_neg (by simp [Ends.toList, Axis.all])]
    exact bind_ok.mpr ⟨ends, validate_ok.mpr ⟨rfl, hforward⟩, rfl⟩

/-- Nothing is stored of a record when no column has a value. -/
theorem store_none_iff :
    m.store record = .ok none ↔
      ∀ axis, m.readInstant (record.column (m.columns.get axis)) = .ok none := by
  simp only [store, bind_ok]
  constructor
  · rintro ⟨read, hread, h⟩ axis
    split at h
    case isTrue hall =>
      rw [Ends.forAll?_ok.mp hread axis]
      have hnone := List.all_eq_true.mp hall _ (Ends.mem_toList.mpr ⟨axis, rfl⟩)
      rw [Option.isNone_iff_eq_none.mp hnone]
    case isFalse =>
      obtain ⟨ends, _, hs⟩ := bind_ok.mp h
      simp [pure, Except.pure] at hs
  · intro h
    refine ⟨Ends.ofFn fun _ => none, Ends.forAll?_ok.mpr fun axis => ?_, rfl⟩
    rw [h axis, Ends.get_ofFn]

-- ---------------------------------------------------------------------------
-- Stored fields
-- ---------------------------------------------------------------------------

abbrev partitionOf (ends : Ends Instant) : Partition :=
  Partition.classify ends.validTo ends.transactionTo

/-- What a document holds of an interval under the names of a field: the ends of the interval's
partition, the mark, and nothing under the names of other partitions. -/
structure StoredAs (field : String) (ends : Ends Instant) (doc : Fields) : Prop where
  axis : ∀ p axis, doc.get? (Partition.fieldName field p axis) =
    if p = partitionOf ends ∧ axis ∈ p.axes then some ((ends.get axis).millis : Int) else none
  flag : doc.get? (Partition.flagName field) = some (if ends.transactionTo.isNow then 1 else 0)

/-- A document holds nothing under the names of a field. -/
def StoresNothing (field : String) (doc : Fields) : Prop :=
  ∀ name, Partition.IsStoredName field name → doc.get? name = none

theorem keys_entries (field : String) (p : Partition) (ends : Ends Instant) :
    (entries field p ends).map Prod.fst =
      p.axes.map (p.fieldName field) ++ [Partition.flagName field] := by
  simp [entries]

theorem nodup_entries (field : String) (p : Partition) (ends : Ends Instant) :
    ((entries field p ends).map Prod.fst).Nodup := by
  rw [keys_entries, List.nodup_append]
  refine ⟨?_, by simp, ?_⟩
  · refine List.Nodup.map (fun a b h => (Partition.fieldName_inj.mp h).2.2) ?_
    cases p <;> decide
  · intro name hname other hother
    obtain ⟨axis, -, rfl⟩ := List.mem_map.mp hname
    rw [List.mem_singleton.mp hother]
    exact Partition.fieldName_ne_flagName

theorem mem_entries {field name : String} {p : Partition} {v : Int} :
    (name, v) ∈ entries field p ends ↔
      (∃ axis ∈ p.axes, p.fieldName field axis = name ∧ ((ends.get axis).millis : Int) = v) ∨
        (name = Partition.flagName field ∧ v = if p.transactionOpen then 1 else 0) := by
  simp [entries]

theorem get?_stored {name : String} {v : Int} :
    (m.stored ends).fields.get? name = some v ↔
      (name, v) ∈ entries m.field (partitionOf ends) ends := by
  rw [stored, OrderedMap.get?_ofList (nodup_entries ..),
    OrderedMap.find?_eq_some_iff (nodup_entries ..)]

theorem storedAs_stored (m : BitemporalMapper) (ends : Ends Instant) :
    StoredAs m.field ends (m.stored ends).fields := by
  constructor
  · intro p axis
    ext v
    rw [get?_stored, mem_entries]
    simp only [Partition.fieldName_inj, Partition.fieldName_ne_flagName, false_and, or_false,
      true_and]
    split
    case isTrue h =>
      obtain ⟨rfl, haxis⟩ := h
      constructor
      · rintro ⟨a, -, ⟨-, rfl⟩, rfl⟩
        rfl
      · intro hv
        exact ⟨axis, haxis, ⟨rfl, rfl⟩, Option.some.inj hv⟩
    case isFalse h =>
      simp only [reduceCtorEq, iff_false, not_exists, not_and]
      rintro a ha ⟨rfl, rfl⟩
      exact absurd ⟨rfl, ha⟩ h
  · rw [get?_stored, mem_entries]
    exact .inr ⟨rfl, by rw [Partition.transactionOpen_classify]⟩

theorem StoredAs.get?_own {field : String} {doc : Fields} {p : Partition} {axis : Axis}
    (h : StoredAs field ends doc) (hp : p = partitionOf ends) (haxis : axis ∈ p.axes) :
    doc.get? (p.fieldName field axis) = some ((ends.get axis).millis : Int) := by
  rw [h.axis, if_pos ⟨hp, haxis⟩]

theorem StoredAs.get?_other {field : String} {doc : Fields} {p : Partition}
    (h : StoredAs field ends doc) (hp : p ≠ partitionOf ends) (axis : Axis) :
    doc.get? (p.fieldName field axis) = none := by
  rw [h.axis, if_neg fun hand => hp hand.1]

theorem StoredAs.congr {field : String} {doc other : Fields} (h : StoredAs field ends doc)
    (hget : ∀ name, Partition.IsStoredName field name → other.get? name = doc.get? name) :
    StoredAs field ends other :=
  ⟨fun p axis => by rw [hget _ (.axis ..), h.axis], by rw [hget _ (.flag field), h.flag]⟩

/-- A mapper stores under the names of its own field only. -/
theorem isStoredName_of_get?_stored {name : String}
    (h : (m.stored ends).fields.get? name ≠ none) : Partition.IsStoredName m.field name := by
  obtain ⟨v, hv⟩ := Option.ne_none_iff_exists'.mp h
  rcases mem_entries.mp (get?_stored.mp hv) with ⟨axis, -, rfl, -⟩ | ⟨rfl, -⟩
  · exact .axis ..
  · exact .flag _

end BitemporalMapper

end Bitemporal
