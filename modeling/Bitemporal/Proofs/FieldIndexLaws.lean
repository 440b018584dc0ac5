import Mathlib.Data.List.Basic
import Bitemporal.FieldIndex
import Bitemporal.Proofs.PredicateLaws

/-!
# Field indexes keep their order

An ordered index has its values in ascending order and each identifier at most once. Adding and
removing keep an index ordered, and on ordered indexes `value?` is a map from identifiers to values:
adding writes one entry of it, removing drops one. The stretch that `range` cuts out is then
exactly the identifiers whose values the window admits.
-/

namespace Bitemporal.FieldIndex

variable {ix : FieldIndex} {id other : String} {value v : Int}

structure Ordered (ix : FieldIndex) : Prop where
  ascending : ix.entries.Pairwise fun a b => a.1 ≤ b.1
  distinct : (ix.entries.map Prod.snd).Nodup

theorem ordered_empty : Ordered ∅ := ⟨.nil, List.nodup_nil⟩

-- ---------------------------------------------------------------------------
-- Entries
-- ---------------------------------------------------------------------------

theorem place_perm (value : Int) (id : String) (entries : List (Int × String)) :
    (place value id entries).Perm ((value, id) :: entries) := by
  induction entries with
  | nil => exact .refl _
  | cons entry rest ih =>
    obtain ⟨w, i⟩ := entry
    rw [place]
    split
    · exact .refl _
    · exact (ih.cons (w, i)).trans (.swap ..)

theorem place_ascending {entries : List (Int × String)}
    (h : entries.Pairwise fun a b => a.1 ≤ b.1) :
    (place value id entries).Pairwise fun a b => a.1 ≤ b.1 := by
  induction entries with
  | nil => exact List.pairwise_singleton _ _
  | cons entry rest ih =>
    obtain ⟨w, i⟩ := entry
    obtain ⟨hw, hrest⟩ := List.pairwise_cons.mp h
    rw [place]
    split
    case isTrue hlt =>
      refine .cons (fun e he => ?_) h
      rcases List.mem_cons.mp he with rfl | he
      · exact Int.le_of_lt hlt
      · exact Int.le_trans (Int.le_of_lt hlt) (hw e he)
    case isFalse hge =>
      refine .cons (fun e he => ?_) (ih hrest)
      rcases List.mem_cons.mp ((place_perm value id rest).mem_iff.mp he) with rfl | he
      · exact Int.not_lt.mp hge
      · exact hw e he

theorem mem_entries_remove {entry : Int × String} :
    entry ∈ (ix.remove id).entries ↔ entry ∈ ix.entries ∧ entry.2 ≠ id := by
  simp [remove]

theorem mem_entries_add {entry : Int × String} :
    entry ∈ (ix.add id value).entries ↔
      entry = (value, id) ∨ (entry ∈ ix.entries ∧ entry.2 ≠ id) := by
  rw [add, (place_perm value id _).mem_iff, List.mem_cons, mem_entries_remove]

theorem Ordered.remove (h : ix.Ordered) (id : String) : (ix.remove id).Ordered :=
  ⟨h.ascending.filter _, h.distinct.sublist (List.filter_sublist.map Prod.snd)⟩

theorem Ordered.add (h : ix.Ordered) (id : String) (value : Int) : (ix.add id value).Ordered := by
  refine ⟨place_ascending (h.remove id).ascending, ?_⟩
  have hperm := (place_perm value id (ix.remove id).entries).map Prod.snd
  refine hperm.nodup_iff.mpr (List.nodup_cons.mpr ⟨?_, (h.remove id).distinct⟩)
  intro hm
  obtain ⟨entry, he, hid⟩ := List.mem_map.mp hm
  exact (mem_entries_remove.mp he).2 hid

-- ---------------------------------------------------------------------------
-- Values
-- ---------------------------------------------------------------------------

theorem Ordered.value?_eq_some_iff (h : ix.Ordered) :
    ix.value? id = some v ↔ (v, id) ∈ ix.entries := by
  obtain ⟨entries⟩ := ix
  have hd := h.distinct
  simp only [value?] at hd ⊢
  clear h
  induction entries with
  | nil => simp
  | cons entry rest ih =>
    obtain ⟨w, i⟩ := entry
    obtain ⟨hi, hrest⟩ := List.nodup_cons.mp hd
    by_cases heq : i = id
    · subst heq
      have hv : (v, i) ∉ rest := fun hm => hi (List.mem_map.mpr ⟨_, hm, rfl⟩)
      simp [hv, eq_comm]
    · simpa [heq, Ne.symm heq] using ih hrest

theorem Ordered.value?_remove (h : ix.Ordered) (id other : String) :
    (ix.remove id).value? other = if other = id then none else ix.value? other := by
  ext v
  rw [(h.remove id).value?_eq_some_iff, mem_entries_remove, ← h.value?_eq_some_iff]
  split <;> simp_all

theorem Ordered.value?_add (h : ix.Ordered) (id other : String) (value : Int) :
    (ix.add id value).value? other = if other = id then some value else ix.value? other := by
  ext v
  rw [(h.add id value).value?_eq_some_iff, mem_entries_add, ← h.value?_eq_some_iff]
  split <;> simp_all [eq_comm]

-- ---------------------------------------------------------------------------
-- Ranges
-- ---------------------------------------------------------------------------

theorem takeWhile_eq_filter {α : Type} {keep : α → Bool} {l : List α}
    (h : l.Pairwise fun a b => keep b = true → keep a = true) :
    l.takeWhile keep = l.filter keep := by
  induction l with
  | nil => rfl
  | cons a rest ih =>
    obtain ⟨ha, hrest⟩ := List.pairwise_cons.mp h
    cases hk : keep a with
    | true => simp [hk, ih hrest]
    | false =>
      have hnone : ∀ b ∈ rest, keep b = false := fun b hb => by
        simpa [hk] using ha b hb
      rw [List.takeWhile_cons_of_neg (by simp [hk]), eq_comm, List.filter_eq_nil_iff]
      simpa [hk] using hnone

theorem dropWhile_eq_filter_not {α : Type} {drop : α → Bool} {l : List α}
    (h : l.Pairwise fun a b => drop b = true → drop a = true) :
    l.dropWhile drop = l.filter fun a => !drop a := by
  induction l with
  | nil => rfl
  | cons a rest ih =>
    obtain ⟨ha, hrest⟩ := List.pairwise_cons.mp h
    cases hd : drop a with
    | true => simp [hd, ih hrest]
    | false =>
      have hnone : ∀ b ∈ rest, drop b = false := fun b hb => by
        simpa [hd] using ha b hb
      rw [List.dropWhile_cons_of_neg (by simp [hd]), eq_comm, List.filter_eq_self]
      simpa [hd] using hnone

theorem below_antitone (lower : Int) (included : Bool) {a b : Int} (h : a ≤ b)
    (hb : below lower included b = true) : below lower included a = true := by
  cases included <;> simp [below] at hb ⊢ <;> omega

theorem notAbove_antitone (upper : Int) (included : Bool) {a b : Int} (h : a ≤ b)
    (hb : notAbove upper included b = true) : notAbove upper included a = true := by
  cases included <;> simp [notAbove] at hb ⊢ <;> omega

/-- The two scans of a range test what the window tests. -/
theorem admits_eq (w : Window) (n : Int) :
    w.admits n = (!below w.lower w.includeLower n && notAbove w.upper w.includeUpper n) := by
  rw [Bool.eq_iff_iff, Window.admits_iff]
  cases w.includeLower <;> cases w.includeUpper <;> simp [below, notAbove] <;> omega

theorem Ordered.range_eq (h : ix.Ordered) (w : Window) :
    ix.range w.lower w.upper w.includeLower w.includeUpper =
      (ix.entries.filter fun entry => w.admits entry.1).map Prod.snd := by
  have hbelow := dropWhile_eq_filter_not
    (h.ascending.imp fun hab => below_antitone w.lower w.includeLower hab)
  have habove := takeWhile_eq_filter
    ((h.ascending.filter fun entry => !below w.lower w.includeLower entry.1).imp
      fun hab => notAbove_antitone w.upper w.includeUpper hab)
  rw [range, hbelow, habove, List.filter_filter]
  simp only [admits_eq, Bool.and_comm]

theorem Ordered.mem_range_iff (h : ix.Ordered) (w : Window) :
    id ∈ ix.range w.lower w.upper w.includeLower w.includeUpper ↔
      (ix.value? id).any w.admits = true := by
  rw [h.range_eq, List.mem_map]
  constructor
  · rintro ⟨⟨v, i⟩, he, rfl⟩
    obtain ⟨hm, hw⟩ := List.mem_filter.mp he
    simp [h.value?_eq_some_iff.mpr hm, hw]
  · intro hany
    obtain ⟨v, hv, hw⟩ := (Option.any_eq_true ..).mp hany
    exact ⟨(v, id), List.mem_filter.mpr ⟨h.value?_eq_some_iff.mp hv, hw⟩, rfl⟩

theorem Ordered.nodup_range (h : ix.Ordered) (w : Window) :
    (ix.range w.lower w.upper w.includeLower w.includeUpper).Nodup := by
  rw [h.range_eq]
  exact h.distinct.sublist (List.filter_sublist.map Prod.snd)

end Bitemporal.FieldIndex
