import Mathlib.Data.List.InsertIdx
import Mathlib.Data.Set.Card
import Bitemporal.FieldIndex.Columns
import Bitemporal.Proofs.FieldIndexLaws

/-!
# Columns are ordered maps

On ascending values halving finds the place that a scan would stop at. So columns that lay out an
ordered index lay out what the index becomes by each change, and cut out the stretch that the index
cuts out. After any changes they hold, for each identifier, the value that was written last and not
removed since.
-/

namespace Bitemporal

namespace FieldColumns

open FieldIndex (below notAbove place)

variable {before : Int → Bool} {values : List Int} {value : Int} {c : FieldColumns}
  {ix : FieldIndex} {id : String}

-- ---------------------------------------------------------------------------
-- Halving
-- ---------------------------------------------------------------------------

/-- The values that stand before are the first ones, and a scan stops behind them. -/
theorem any_before_iff (h : values.Pairwise fun a b => before b = true → before a = true) {i : Nat}
    (hi : i < values.length) :
    values[i]?.any before = true ↔ i < (values.takeWhile before).length := by
  induction values generalizing i with
  | nil => simp at hi
  | cons a rest ih =>
    obtain ⟨ha, hrest⟩ := List.pairwise_cons.mp h
    cases hbefore : before a with
    | true =>
      cases i with
      | zero => simp [hbefore]
      | succ i => simpa [hbefore] using ih hrest (Nat.lt_of_succ_lt_succ hi)
    | false =>
      have hnone : ∀ b ∈ a :: rest, before b = false := by
        refine List.forall_mem_cons.mpr ⟨hbefore, fun b hb => ?_⟩
        simpa [hbefore] using ha b hb
      simp [hbefore, List.getElem?_eq_getElem hi, hnone _ (List.getElem_mem hi)]

theorem bisect_eq (h : values.Pairwise fun a b => before b = true → before a = true)
    {low high : Nat} (hlow : low ≤ (values.takeWhile before).length)
    (hhigh : (values.takeWhile before).length ≤ high) (hlength : high ≤ values.length) :
    bisect before values low high = (values.takeWhile before).length := by
  -- What a scan would give stays between the two bounds, which meet in the end.
  fun_induction bisect before values low high with
  | case1 low high hlt middle hany ih =>
    have hmiddle := (any_before_iff h (i := middle) (by omega)).mp hany
    exact ih hmiddle hhigh hlength
  | case2 low high hlt middle hany ih =>
    have hmiddle := mt (any_before_iff h (i := middle) (by omega)).mpr hany
    exact ih hlow (by omega) (by omega)
  | case3 low high hle => omega

theorem pairwise_lt (h : values.Pairwise (· ≤ ·)) (value : Int) :
    values.Pairwise fun a b => decide (b < value) = true → decide (a < value) = true :=
  h.imp fun hab => by simp; omega

theorem pairwise_le (h : values.Pairwise (· ≤ ·)) (value : Int) :
    values.Pairwise fun a b => decide (b ≤ value) = true → decide (a ≤ value) = true :=
  h.imp fun hab => by simp; omega

theorem leftCut_eq (h : values.Pairwise (· ≤ ·)) (value : Int) :
    leftCut values value = (values.takeWhile fun v => v < value).length :=
  bisect_eq (pairwise_lt h value) (Nat.zero_le _) (List.takeWhile_sublist _).length_le
    (Nat.le_refl _)

theorem rightCut_eq (h : values.Pairwise (· ≤ ·)) (value : Int) :
    rightCut values value = (values.takeWhile fun v => v ≤ value).length :=
  bisect_eq (pairwise_le h value) (Nat.zero_le _) (List.takeWhile_sublist _).length_le
    (Nat.le_refl _)

/-- The places between the cuts at a value are those that hold it. -/
theorem mem_cuts_iff (h : values.Pairwise (· ≤ ·)) {i : Nat} (hi : i < values.length) (value : Int) :
    i ∈ List.range' (leftCut values value) (rightCut values value - leftCut values value) ↔
      values[i]? = some value := by
  have hleft := any_before_iff (pairwise_lt h value) hi
  have hright := any_before_iff (pairwise_le h value) hi
  rw [← leftCut_eq h] at hleft
  rw [← rightCut_eq h] at hright
  simp only [List.getElem?_eq_getElem hi, Option.any_some, decide_eq_true_eq] at hleft hright ⊢
  rw [List.mem_range'_1, Option.some.injEq]
  omega

-- ---------------------------------------------------------------------------
-- Stretches
-- ---------------------------------------------------------------------------

section

variable {α : Type} {keep drop : α → Bool} {l : List α}

theorem drop_length_takeWhile (drop : α → Bool) (l : List α) :
    l.drop (l.takeWhile drop).length = l.dropWhile drop := by
  have h : (l.takeWhile drop ++ l.dropWhile drop).drop (l.takeWhile drop).length =
      l.dropWhile drop := List.drop_left
  rwa [List.takeWhile_append_dropWhile] at h

theorem take_length_takeWhile (keep : α → Bool) (l : List α) :
    l.take (l.takeWhile keep).length = l.takeWhile keep := by
  have h : (l.takeWhile keep ++ l.dropWhile keep).take (l.takeWhile keep).length =
      l.takeWhile keep := List.take_left
  rwa [List.takeWhile_append_dropWhile] at h

/-- A stretch that is kept stops at the same place wherever it is taken up. -/
theorem drop_takeWhile (h : l.Pairwise fun a b => keep b = true → keep a = true) (n : Nat) :
    (l.takeWhile keep).drop n = (l.drop n).takeWhile keep := by
  induction l generalizing n with
  | nil => simp
  | cons a rest ih =>
    obtain ⟨ha, hrest⟩ := List.pairwise_cons.mp h
    cases n with
    | zero => simp
    | succ n =>
      cases hkeep : keep a with
      | true => simpa [hkeep] using ih hrest n
      | false =>
        have hnone : ∀ b ∈ rest.drop n, keep b = false := fun b hb => by
          simpa [hkeep] using ha b (List.mem_of_mem_drop hb)
        have hempty : (rest.drop n).takeWhile keep = [] := by
          cases hrest' : rest.drop n with
          | nil => rfl
          | cons b _ => simp [hnone b (by simp [hrest'])]
        simp [hkeep, hempty]

end

-- ---------------------------------------------------------------------------
-- Columns that lay out an index
-- ---------------------------------------------------------------------------

/-- Columns lay out the entries of an index and map back to their values. -/
structure LaysOut (c : FieldColumns) (ix : FieldIndex) : Prop where
  values : c.values = ix.entries.map Prod.fst
  ids : c.ids = ix.entries.map Prod.snd
  byId : ∀ id, c.byId.get? id = ix.value? id

theorem laysOut_empty : LaysOut ∅ ∅ := ⟨rfl, rfl, fun _ => rfl⟩

theorem LaysOut.ascending (h : c.LaysOut ix) (ho : ix.Ordered) : c.values.Pairwise (· ≤ ·) := by
  rw [h.values]
  exact List.pairwise_map.mpr ho.ascending

theorem length_takeWhile_map (keep : Int → Bool) (entries : List (Int × String)) :
    ((entries.map Prod.fst).takeWhile keep).length =
      (entries.takeWhile fun entry => keep entry.1).length := by
  rw [List.takeWhile_map, List.length_map]
  rfl

theorem LaysOut.leftCut_eq (h : c.LaysOut ix) (ho : ix.Ordered) (value : Int) :
    leftCut c.values value = (ix.entries.takeWhile fun entry => entry.1 < value).length := by
  rw [FieldColumns.leftCut_eq (h.ascending ho), h.values, length_takeWhile_map]

theorem LaysOut.rightCut_eq (h : c.LaysOut ix) (ho : ix.Ordered) (value : Int) :
    rightCut c.values value = (ix.entries.takeWhile fun entry => entry.1 ≤ value).length := by
  rw [FieldColumns.rightCut_eq (h.ascending ho), h.values, length_takeWhile_map]

theorem place_eq_insertIdx (value : Int) (id : String) (entries : List (Int × String)) :
    place value id entries =
      entries.insertIdx (entries.takeWhile fun entry => entry.1 ≤ value).length (value, id) := by
  induction entries with
  | nil => rfl
  | cons entry rest ih =>
    obtain ⟨v, i⟩ := entry
    rw [place]
    split
    case isTrue hlt =>
      have hnot : ¬ v ≤ value := Int.not_le.mpr hlt
      simp [hnot]
    case isFalse hge =>
      have hle : v ≤ value := Int.not_lt.mp hge
      simp [hle, ih]

/-- The place of an identifier is the only one that dropping the identifier gives up. -/
theorem filter_eq_eraseIdx {entries : List (Int × String)} (hd : (entries.map Prod.snd).Nodup)
    {i : Nat} (h : (entries.map Prod.snd)[i]? = some id) :
    (entries.filter fun entry => entry.2 ≠ id) = entries.eraseIdx i := by
  induction entries generalizing i with
  | nil => simp at h
  | cons entry rest ih =>
    obtain ⟨hentry, hrest⟩ := List.nodup_cons.mp hd
    cases i with
    | zero =>
      obtain rfl : entry.2 = id := by simpa using h
      have hkeep : ∀ other ∈ rest, other.2 ≠ entry.2 := fun other hother heq =>
        hentry (heq ▸ List.mem_map_of_mem hother)
      simpa using hkeep
    | succ i =>
      have hi : (rest.map Prod.snd)[i]? = some id := by simpa using h
      have hne : entry.2 ≠ id := fun heq => hentry (heq ▸ List.mem_of_getElem? hi)
      rw [List.filter_cons_of_pos (by simpa using hne), ih hrest hi, List.eraseIdx_cons_succ]

/-- The scan through the equal values finds the place of the identifier. -/
theorem LaysOut.exists_place (h : c.LaysOut ix) (ho : ix.Ordered)
    (hvalue : ix.value? id = some value) :
    ∃ i, c.ids[i]? = some id ∧
      (List.range' (leftCut c.values value)
        (rightCut c.values value - leftCut c.values value)).find?
          (fun i => c.ids[i]? = some id) = some i := by
  obtain ⟨i, hi, hentry⟩ := List.getElem_of_mem (ho.value?_eq_some_iff.mp hvalue)
  have hid : c.ids[i]? = some id := by simp [h.ids, List.getElem?_eq_getElem hi, hentry]
  have hvalues : c.values[i]? = some value := by
    simp [h.values, List.getElem?_eq_getElem hi, hentry]
  have hplace := (mem_cuts_iff (h.ascending ho) (by simpa [h.values] using hi) value).mpr hvalues
  cases hfind : (List.range' (leftCut c.values value)
      (rightCut c.values value - leftCut c.values value)).find?
        (fun i => c.ids[i]? = some id) with
  | none => exact absurd (decide_eq_true hid) (List.find?_eq_none.mp hfind i hplace)
  | some j =>
    have hj := List.find?_some hfind
    exact ⟨j, by simpa using hj, rfl⟩

theorem LaysOut.remove (h : c.LaysOut ix) (ho : ix.Ordered) (id : String) :
    (c.remove id).LaysOut (ix.remove id) := by
  cases hvalue : ix.value? id with
  | none =>
    have hcolumns : c.remove id = c := by simp [FieldColumns.remove, h.byId, hvalue]
    have hentries : (ix.remove id).entries = ix.entries := by
      refine List.filter_eq_self.mpr fun entry hentry => ?_
      have hne : entry.2 ≠ id := by
        rintro rfl
        simp [ho.value?_eq_some_iff.mpr hentry] at hvalue
      simpa using hne
    rw [hcolumns]
    refine ⟨by rw [hentries, h.values], by rw [hentries, h.ids], fun other => ?_⟩
    rw [h.byId, ho.value?_remove]
    split
    case isTrue heq => rw [heq, hvalue]
    case isFalse => rfl
  | some value =>
    obtain ⟨i, hid, hfind⟩ := h.exists_place ho hvalue
    have hcolumns : c.remove id =
        ⟨c.values.eraseIdx i, c.ids.eraseIdx i, c.byId.erase id⟩ := by
      simp only [FieldColumns.remove, h.byId, hvalue, hfind]
    have hentries : (ix.remove id).entries = ix.entries.eraseIdx i :=
      filter_eq_eraseIdx ho.distinct (h.ids ▸ hid)
    rw [hcolumns]
    refine ⟨?_, ?_, fun other => ?_⟩
    · rw [hentries, ← List.eraseIdx_map, h.values]
    · rw [hentries, ← List.eraseIdx_map, h.ids]
    · rw [OrderedMap.get?_erase, ho.value?_remove, h.byId]

theorem LaysOut.add (h : c.LaysOut ix) (ho : ix.Ordered) (id : String) (value : Int) :
    (c.add id value).LaysOut (ix.add id value) := by
  have hothers : (if c.byId.contains id then c.remove id else c) = c.remove id := by
    cases hid : c.byId.get? id <;> simp [OrderedMap.contains, FieldColumns.remove, hid]
  have hrest := h.remove ho id
  have hcut := hrest.rightCut_eq (ho.remove id) value
  have hentries := place_eq_insertIdx value id (ix.remove id).entries
  simp only [FieldColumns.add, FieldIndex.add, hothers]
  refine ⟨?_, ?_, fun other => ?_⟩
  · rw [hentries, List.map_insertIdx, hcut, hrest.values]
  · rw [hentries, List.map_insertIdx, hcut, hrest.ids]
  · rw [OrderedMap.get?_insert, hrest.byId, ho.value?_remove]
    refine Eq.trans ?_ (ho.value?_add id other value).symm
    split <;> rfl

theorem LaysOut.range (h : c.LaysOut ix) (ho : ix.Ordered) (lower upper : Int)
    (includeLower includeUpper : Bool) :
    c.range lower upper includeLower includeUpper =
      ix.range lower upper includeLower includeUpper := by
  have hlow : (if includeLower then leftCut c.values lower else rightCut c.values lower) =
      (ix.entries.takeWhile fun entry => below lower includeLower entry.1).length := by
    cases includeLower
    · exact h.rightCut_eq ho lower
    · exact h.leftCut_eq ho lower
  have hhigh : (if includeUpper then rightCut c.values upper else leftCut c.values upper) =
      (ix.entries.takeWhile fun entry => notAbove upper includeUpper entry.1).length := by
    cases includeUpper
    · exact h.leftCut_eq ho upper
    · exact h.rightCut_eq ho upper
  have habove : ix.entries.Pairwise fun a b =>
      notAbove upper includeUpper b.1 = true → notAbove upper includeUpper a.1 = true :=
    ho.ascending.imp fun hab => FieldIndex.notAbove_antitone upper includeUpper hab
  simp only [FieldColumns.range, FieldIndex.range]
  rw [hlow, hhigh, h.ids, ← List.map_take, ← List.map_drop, take_length_takeWhile,
    drop_takeWhile habove, drop_length_takeWhile]

end FieldColumns

-- ---------------------------------------------------------------------------
-- Changes
-- ---------------------------------------------------------------------------

inductive FieldIndex.Change where
  | add (id : String) (value : Int)
  | remove (id : String)

namespace FieldIndex

namespace Change

def id : Change → String
  | add id _ => id
  | remove id => id

/-- What a change leaves for its identifier. -/
def written : Change → Option Int
  | add _ value => some value
  | remove _ => none

end Change

/-- The value that the last change of an identifier leaves for it. -/
def current (changes : List Change) (id : String) : Option Int :=
  (changes.reverse.find? fun change => change.id = id).bind Change.written

def apply (ix : FieldIndex) : Change → FieldIndex
  | .add id value => ix.add id value
  | .remove id => ix.remove id

def run (changes : List Change) : FieldIndex := changes.foldl apply ∅

theorem current_concat (changes : List Change) (change : Change) (id : String) :
    current (changes ++ [change]) id =
      if change.id = id then change.written else current changes id := by
  rw [current, List.reverse_append, List.reverse_singleton, List.singleton_append, List.find?_cons]
  by_cases h : change.id = id <;> simp [h, current]

theorem Ordered.apply {ix : FieldIndex} (h : ix.Ordered) (change : Change) :
    (ix.apply change).Ordered := by
  cases change with
  | add id value => exact h.add id value
  | remove id => exact h.remove id

theorem Ordered.value?_apply {ix : FieldIndex} (h : ix.Ordered) (change : Change) (id : String) :
    (ix.apply change).value? id = if change.id = id then change.written else ix.value? id := by
  cases change with
  | add other value => simp only [FieldIndex.apply, h.value?_add, Change.id, Change.written, eq_comm]
  | remove other => simp only [FieldIndex.apply, h.value?_remove, Change.id, Change.written, eq_comm]

end FieldIndex

namespace FieldColumns

open FieldIndex (Change current)

variable {c : FieldColumns} {ix : FieldIndex} {values : String → Option Int}

def apply (c : FieldColumns) : Change → FieldColumns
  | .add id value => c.add id value
  | .remove id => c.remove id

def run (changes : List Change) : FieldColumns := changes.foldl apply ∅

theorem LaysOut.apply (h : c.LaysOut ix) (ho : ix.Ordered) (change : Change) :
    (c.apply change).LaysOut (ix.apply change) := by
  cases change with
  | add id value => exact h.add ho id value
  | remove id => exact h.remove ho id

theorem run_laysOut (changes : List Change) :
    (FieldIndex.run changes).Ordered ∧ (run changes).LaysOut (FieldIndex.run changes) ∧
      (FieldIndex.run changes).value? = current changes := by
  induction changes using List.reverseRecOn with
  | nil => exact ⟨FieldIndex.ordered_empty, laysOut_empty, rfl⟩
  | append_singleton changes change ih =>
    obtain ⟨ho, h, hcurrent⟩ := ih
    simp only [run, FieldIndex.run, List.foldl_append, List.foldl_cons, List.foldl_nil]
    refine ⟨ho.apply change, h.apply ho change, funext fun id => ?_⟩
    rw [FieldIndex.current_concat, ← hcurrent]
    exact ho.value?_apply change id

/-- Columns are an exact ordered map: they hold the values of identifiers, each once and in order,
and their stretches are what the bounds of ranges say. -/
structure Represents (c : FieldColumns) (values : String → Option Int) : Prop where
  ascending : c.values.Pairwise (· ≤ ·)
  aligned : c.values.length = c.ids.length
  distinct : c.ids.Nodup
  pairs : ∀ id v, (v, id) ∈ c.values.zip c.ids ↔ values id = some v
  value : ∀ id, c.value? id = values id
  size : c.size = {id | values id ≠ none}.ncard
  nodup_range : ∀ lower upper includeLower includeUpper,
    (c.range lower upper includeLower includeUpper).Nodup
  mem_range : ∀ lower upper includeLower includeUpper id,
    id ∈ c.range lower upper includeLower includeUpper ↔ ∃ v, values id = some v ∧
      (lower < v ∨ (lower = v ∧ includeLower = true)) ∧
        (v < upper ∨ (v = upper ∧ includeUpper = true))
  range_empty : ∀ lower upper includeLower includeUpper,
    upper < lower ∨ (lower = upper ∧ ¬ (includeLower = true ∧ includeUpper = true)) →
      c.range lower upper includeLower includeUpper = []
  mem_exact : ∀ v id, id ∈ c.exact v ↔ values id = some v

theorem LaysOut.mem_range (h : c.LaysOut ix) (ho : ix.Ordered) {lower upper : Int}
    {includeLower includeUpper : Bool} {id : String} :
    id ∈ c.range lower upper includeLower includeUpper ↔ ∃ v, ix.value? id = some v ∧
      (lower < v ∨ (lower = v ∧ includeLower = true)) ∧
        (v < upper ∨ (v = upper ∧ includeUpper = true)) := by
  rw [h.range ho]
  refine (ho.mem_range_iff ⟨lower, upper, includeLower, includeUpper⟩).trans ?_
  simp only [Option.any_eq_true, Window.admits_iff]

theorem LaysOut.setOf_ids (h : c.LaysOut ix) (ho : ix.Ordered) :
    {id | ix.value? id ≠ none} = (c.ids.toFinset : Set String) := by
  ext id
  rw [Set.mem_ofPred_eq, List.coe_toFinset, Set.mem_ofPred_eq, h.ids, Option.ne_none_iff_exists']
  simp [ho.value?_eq_some_iff]

theorem LaysOut.represents (h : c.LaysOut ix) (ho : ix.Ordered) : c.Represents ix.value? where
  ascending := h.ascending ho
  aligned := by simp [h.values, h.ids]
  distinct := h.ids ▸ ho.distinct
  pairs id v := by
    have hzip : c.values.zip c.ids = ix.entries := by simp [h.values, h.ids, List.zip_map']
    rw [hzip, ho.value?_eq_some_iff]
  value := h.byId
  size := by
    rw [h.setOf_ids ho, Set.ncard_coe_finset, List.toFinset_card_of_nodup (h.ids ▸ ho.distinct)]
    simp [FieldColumns.size, h.values, h.ids]
  nodup_range lower upper includeLower includeUpper := by
    rw [h.range ho]
    exact ho.nodup_range ⟨lower, upper, includeLower, includeUpper⟩
  mem_range _ _ _ _ _ := h.mem_range ho
  range_empty lower upper includeLower includeUpper hempty := by
    refine List.eq_nil_iff_forall_not_mem.mpr fun id hid => ?_
    obtain ⟨v, -, hlow, hhigh⟩ := (h.mem_range ho).mp hid
    rcases hempty with hinverted | ⟨rfl, hexcluded⟩
    · omega
    · have hlower : includeLower = true := by
        rcases hlow with hlt | ⟨-, hlower⟩
        · omega
        · exact hlower
      have hupper : includeUpper = true := by
        rcases hhigh with hlt | ⟨-, hupper⟩
        · omega
        · exact hupper
      exact hexcluded ⟨hlower, hupper⟩
  mem_exact v id := by
    rw [FieldColumns.exact, h.mem_range ho]
    constructor
    · rintro ⟨w, hw, hlow, hhigh⟩
      obtain rfl : v = w := by omega
      exact hw
    · intro hv
      exact ⟨v, hv, .inr ⟨rfl, rfl⟩, .inr ⟨rfl, rfl⟩⟩

/-- After any changes of empty columns each identifier has the value that its last change left. The
index that the columns lay out has gone through the same changes, and gives the same answers. -/
theorem run_represents (changes : List Change) :
    (run changes).Represents (current changes) ∧ (run changes).LaysOut (FieldIndex.run changes) ∧
      ∀ lower upper includeLower includeUpper,
        (run changes).range lower upper includeLower includeUpper =
          (FieldIndex.run changes).range lower upper includeLower includeUpper := by
  obtain ⟨ho, h, hcurrent⟩ := run_laysOut changes
  rw [← hcurrent]
  exact ⟨h.represents ho, h, h.range ho⟩

end FieldColumns

end Bitemporal
