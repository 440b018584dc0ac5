import Bitemporal.Proofs.Binary64Laws
import Bitemporal.Proofs.MapperLaws

/-!
# The standard mapper

The mapper with the default columns, pattern and open end exists for every field name that is not
blank. It reads millisecond counts as they are, and so stores every interval of instants that runs
forwards.
-/

namespace Bitemporal

namespace BitemporalMapper

variable {field : String} {m : BitemporalMapper} {record : Record} {ends : Ends Instant}

theorem requireField_ok {name : Option String} {s : String} :
    requireField name = .ok s ↔ name = some s ∧ Text.allBlank s = false := by
  unfold requireField
  cases name with
  | none => simp
  | some t => cases h : Text.allBlank t <;> simp [h] <;> grind

theorem requireColumn_column (axis : Axis) :
    requireColumn axis (some axis.column) = .ok axis.column := by
  cases axis <;> rfl

theorem standard_ok : standard field = .ok m ↔ Text.allBlank field = false ∧
    m = ⟨field, Ends.ofFn Axis.column, InstantFormat.ofPattern none, nowMillis,
      Nat.le_refl nowMillis⟩ := by
  have hcolumns : (Ends.forAll? fun axis => requireColumn axis
      ((Ends.ofFn fun axis => some axis.column).get axis)) = .ok (Ends.ofFn Axis.column) :=
    Ends.forAll?_ok.mpr fun axis => by
      rw [Ends.get_ofFn, Ends.get_ofFn, requireColumn_column]
  simp only [standard, make, bind_ok, pure_ok, hcolumns, requireField_ok, Except.ok.injEq]
  constructor
  · rintro ⟨_, rfl, _, ⟨hname, hblank⟩, now, hnow, rfl⟩
    cases hname
    cases hnow
    exact ⟨hblank, rfl⟩
  · rintro ⟨hblank, rfl⟩
    exact ⟨_, rfl, field, ⟨rfl, hblank⟩, ⟨nowMillis, Nat.le_refl nowMillis⟩, rfl, rfl⟩

theorem standard_field (hm : standard field = .ok m) : m.field = field := by
  rw [(standard_ok.mp hm).2]

theorem standard_now (hm : standard field = .ok m) : m.now = nowMillis := by
  rw [(standard_ok.mp hm).2]

theorem nodup_columns (hm : standard field = .ok m) : m.columns.toList.Nodup := by
  obtain ⟨-, rfl⟩ := standard_ok.mp hm
  exact (by decide : (Ends.ofFn Axis.column).toList.Nodup)

theorem exists_standard (h : Text.allBlank field = false) : ∃ m, standard field = .ok m :=
  ⟨_, standard_ok.mpr ⟨h, rfl⟩⟩

def recordUnder (columns : Ends String) (ends : Ends Nat) : Record :=
  OrderedMap.ofList (Axis.all.map fun axis => (columns.get axis, .int (ends.get axis)))

theorem column_ofColumns {columns : Ends String} (h : columns.toList.Nodup) (values : Ends Value)
    (axis : Axis) :
    Record.column (OrderedMap.ofList (Axis.all.map fun axis => (columns.get axis, values.get axis)))
      (columns.get axis) = values.get axis := by
  have hkeys : ((Axis.all.map fun axis => (columns.get axis, values.get axis)).map
      Prod.fst).Nodup := by
    rw [List.map_map]
    exact h
  rw [Record.column, OrderedMap.get?_ofList hkeys,
    (OrderedMap.find?_eq_some_iff hkeys).mpr (List.mem_map.mpr ⟨axis, ?_, rfl⟩), Option.getD_some]
  cases axis <;> simp [Axis.all]

theorem column_recordUnder {columns : Ends String} (h : columns.toList.Nodup) (ends : Ends Nat)
    (axis : Axis) :
    (recordUnder columns ends).column (columns.get axis) = .int (ends.get axis) := by
  have hcolumn := column_ofColumns h (ends.map fun n : Nat => .int n) axis
  simpa only [Ends.get_map, recordUnder] using hcolumn

def recordOf (ends : Ends Nat) : Record :=
  OrderedMap.ofList (Axis.all.map fun axis => (axis.column, .int (ends.get axis)))

theorem column_recordOf (ends : Ends Nat) (axis : Axis) :
    (recordOf ends).column axis.column = .int (ends.get axis) := by
  have hcolumns : (Ends.ofFn Axis.column).toList.Nodup := by decide
  have hcolumn := column_recordUnder hcolumns ends axis
  rwa [Ends.get_ofFn] at hcolumn

theorem read_int (f : InstantFormat) {n : Int} (h : n.natAbs < 2 ^ 64) :
    f.read (.int n) = .ok (some n) := by
  have hsome := Binary64.isSome_ofInt? h (by decide)
  rw [InstantFormat.read, if_pos hsome]

/-- Millisecond counts are read as they are. -/
theorem reads_int {n : Nat} (h : n ≤ m.now) : m.Reads (.int n) n := by
  have hbits : (n : Int).natAbs < 2 ^ 64 := by
    have := m.now_le
    rw [Int.natAbs_natCast]
    unfold nowMillis at this
    omega
  exact ⟨read_int m.format hbits, h⟩

theorem reads_recordOf (hm : standard field = .ok m) (ends : Ends Instant) (axis : Axis) :
    m.Reads ((recordOf ends.millis).column (m.columns.get axis)) (ends.millis.get axis) := by
  obtain ⟨-, rfl⟩ := standard_ok.mp hm
  rw [Ends.get_ofFn, column_recordOf, Ends.millis, Ends.get_map]
  exact reads_int (ends.get axis).le_now

theorem readEnds_recordOf (hm : standard field = .ok m) (ends : Ends Instant) :
    m.readEnds (recordOf ends.millis) = .ok (ends.map some) := by
  refine readEnds_some_iff.mpr ⟨ends.millis, reads_recordOf hm ends, Ends.ext_get fun axis => ?_⟩
  obtain ⟨-, rfl⟩ := standard_ok.mp hm
  rw [Ends.get_map]
  unfold collapse
  split
  · assumption
  · rfl

theorem store_recordOf (hm : standard field = .ok m) (hf : Forward ends) :
    m.store (recordOf ends.millis) = .ok (some (m.stored ends)) :=
  store_some_iff.mpr ⟨ends, readEnds_recordOf hm ends, hf, rfl⟩

theorem storedAs_standard (hm : standard field = .ok m) (ends : Ends Instant) :
    StoredAs field ends (m.stored ends).fields := by
  have hstored := storedAs_stored m ends
  rwa [standard_field hm] at hstored

theorem standard_store {s : StoredInterval} (hm : standard field = .ok m)
    (hs : m.store record = .ok (some s)) :
    ∃ ends, m.readEnds record = .ok (ends.map some) ∧ Forward ends ∧
      StoredAs field ends s.fields := by
  obtain ⟨ends, hread, hf, rfl⟩ := store_some_iff.mp hs
  exact ⟨ends, hread, hf, storedAs_standard hm ends⟩

end BitemporalMapper

end Bitemporal
