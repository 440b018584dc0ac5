import Bitemporal.OrderedMap

/-!
# Look-ups in maps built from entries

What a look-up finds in a map that was filled from a list of entries, or merged from two maps, and
how look-ups and entries determine each other.
-/

namespace Bitemporal.OrderedMap

variable {α : Type}

@[simp] theorem get?_emptyCollection (name : String) : (∅ : OrderedMap α).get? name = none := rfl

theorem find?_isSome_iff {name : String} {entries : List (String × α)} :
    (find? name entries).isSome ↔ name ∈ entries.map Prod.fst := by
  induction entries with
  | nil => simp [find?]
  | cons entry rest ih =>
    obtain ⟨n, v⟩ := entry
    by_cases h : n = name
    · simp [find?, h]
    · simpa [find?, h, Ne.symm h] using ih

theorem find?_eq_some_iff {name : String} {value : α} {entries : List (String × α)}
    (h : (entries.map Prod.fst).Nodup) :
    find? name entries = some value ↔ (name, value) ∈ entries := by
  induction entries with
  | nil => simp [find?]
  | cons entry rest ih =>
    obtain ⟨n, v⟩ := entry
    simp only [List.map_cons, List.nodup_cons] at h
    by_cases hn : n = name
    · subst hn
      have hrest : (n, value) ∉ rest := fun hm => h.1 (List.mem_map_of_mem hm)
      simp [find?, hrest, eq_comm]
    · simp [find?, hn, Ne.symm hn, ih h.2]

theorem mem_entries_iff {m : OrderedMap α} {name : String} {value : α} :
    (name, value) ∈ m.entries ↔ m.get? name = some value :=
  (find?_eq_some_iff m.distinct).symm

theorem mem_keys_iff {m : OrderedMap α} {name : String} :
    name ∈ m.keys ↔ (m.get? name).isSome :=
  find?_isSome_iff.symm

/-- Entries with distinct names take the place of what a map held under these names. -/
theorem get?_insertAll {entries : List (String × α)} (h : (entries.map Prod.fst).Nodup)
    (m : OrderedMap α) (name : String) :
    (m.insertAll entries).get? name = (find? name entries).or (m.get? name) := by
  induction entries generalizing m with
  | nil => simp [insertAll, find?]
  | cons entry rest ih =>
    obtain ⟨n, v⟩ := entry
    simp only [List.map_cons, List.nodup_cons] at h
    have hstep : m.insertAll ((n, v) :: rest) = (m.insert n v).insertAll rest := rfl
    rw [hstep, ih h.2, get?_insert]
    by_cases hn : n = name
    · subst hn
      simp [find?, find?_eq_none h.1]
    · simp [find?, hn, Ne.symm hn]

theorem get?_ofList {entries : List (String × α)} (h : (entries.map Prod.fst).Nodup)
    (name : String) : (ofList entries).get? name = find? name entries := by
  rw [ofList, get?_insertAll h, get?_empty, Option.or_none]

theorem get?_singleton (name other : String) (value : α) :
    (ofList [(name, value)]).get? other = if other = name then some value else none :=
  get?_insert empty name other value

@[simp] theorem get?_merge (m other : OrderedMap α) (name : String) :
    (m.merge other).get? name = (other.get? name).or (m.get? name) :=
  get?_insertAll other.distinct m name

-- ---------------------------------------------------------------------------
-- Entries of maps without common names
-- ---------------------------------------------------------------------------

/-- No name has a value in both maps. -/
def Disjoint (m other : OrderedMap α) : Prop :=
  ∀ name, m.get? name = none ∨ other.get? name = none

theorem upsert_of_not_mem {name : String} {value : α} {entries : List (String × α)}
    (h : name ∉ entries.map Prod.fst) : upsert name value entries = entries ++ [(name, value)] := by
  induction entries with
  | nil => rfl
  | cons entry rest ih =>
    obtain ⟨n, v⟩ := entry
    simp only [List.map_cons, List.mem_cons, not_or] at h
    rw [upsert, if_neg (Ne.symm h.1), ih h.2, List.cons_append]

theorem entries_insert {m : OrderedMap α} {name : String} {value : α} (h : name ∉ m.keys) :
    (m.insert name value).entries = m.entries ++ [(name, value)] :=
  upsert_of_not_mem h

/-- Entries whose names a map does not have go to its end. -/
theorem entries_insertAll {entries : List (String × α)} (h : (entries.map Prod.fst).Nodup)
    {m : OrderedMap α} (hm : ∀ name ∈ entries.map Prod.fst, name ∉ m.keys) :
    (m.insertAll entries).entries = m.entries ++ entries := by
  induction entries generalizing m with
  | nil => simp [insertAll]
  | cons entry rest ih =>
    obtain ⟨n, v⟩ := entry
    obtain ⟨hn, hrest⟩ := List.nodup_cons.mp h
    obtain ⟨hhead, htail⟩ := List.forall_mem_cons.mp hm
    have hstep : m.insertAll ((n, v) :: rest) = (m.insert n v).insertAll rest := rfl
    rw [hstep, ih hrest]
    · rw [entries_insert hhead, List.append_assoc, List.singleton_append]
    · intro name hname
      rw [mem_keys_insert, not_or]
      exact ⟨fun heq => hn (heq ▸ hname), htail name hname⟩

theorem entries_merge {m other : OrderedMap α} (h : m.Disjoint other) :
    (m.merge other).entries = m.entries ++ other.entries := by
  refine entries_insertAll other.distinct fun name hname hkey => ?_
  have hm := mem_keys_iff.mp hkey
  have hother := mem_keys_iff.mp hname
  rcases h name with hnone | hnone <;> simp [hnone] at hm hother

end Bitemporal.OrderedMap
