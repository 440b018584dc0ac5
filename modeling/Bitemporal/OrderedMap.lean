/-!
# Maps that remember insertion order

A map from names to values whose entries stay in the order in which their names first appeared.
Writing a present name replaces its value in place; a new name goes to the end. The names of a map
are distinct by construction, and `get?` is the view through which each operation is described.
-/

namespace Bitemporal

variable {α β : Type}

/-- Distinct names with their values, oldest first. -/
structure OrderedMap (α : Type) where
  entries : List (String × α)
  distinct : (entries.map Prod.fst).Nodup

namespace OrderedMap

def find? (name : String) : List (String × α) → Option α
  | [] => none
  | (n, v) :: rest => if n = name then some v else find? name rest

/-- Replaces the value of a name in place, or appends the name. -/
def upsert (name : String) (value : α) : List (String × α) → List (String × α)
  | [] => [(name, value)]
  | (n, v) :: rest => if n = name then (name, value) :: rest else (n, v) :: upsert name value rest

def without (name : String) : List (String × α) → List (String × α)
  | [] => []
  | (n, v) :: rest => if n = name then rest else (n, v) :: without name rest

theorem mem_keys_upsert {name other : String} {value : α} {entries : List (String × α)} :
    other ∈ (upsert name value entries).map Prod.fst ↔
      other = name ∨ other ∈ entries.map Prod.fst := by
  induction entries with
  | nil => simp [upsert]
  | cons entry rest ih =>
    obtain ⟨n, v⟩ := entry
    by_cases h : n = name
    · simp [upsert, h]
    · simp only [upsert, if_neg h, List.map_cons, List.mem_cons, ih]
      exact or_left_comm

theorem nodup_upsert {name : String} {value : α} {entries : List (String × α)}
    (h : (entries.map Prod.fst).Nodup) : ((upsert name value entries).map Prod.fst).Nodup := by
  induction entries with
  | nil => simp [upsert]
  | cons entry rest ih =>
    obtain ⟨n, v⟩ := entry
    simp only [List.map_cons, List.nodup_cons] at h
    by_cases hn : n = name
    · subst hn
      simpa [upsert] using h
    · simp only [upsert, if_neg hn, List.map_cons, List.nodup_cons, mem_keys_upsert, not_or]
      exact ⟨⟨hn, h.1⟩, ih h.2⟩

theorem keys_without_subset {name other : String} {entries : List (String × α)}
    (h : other ∈ (without name entries).map Prod.fst) : other ∈ entries.map Prod.fst := by
  induction entries with
  | nil => exact h
  | cons entry rest ih =>
    obtain ⟨n, v⟩ := entry
    by_cases hn : n = name
    · rw [without, if_pos hn] at h
      exact List.mem_cons_of_mem _ h
    · simp only [without, if_neg hn, List.map_cons, List.mem_cons] at h ⊢
      exact h.imp id ih

theorem nodup_without {name : String} {entries : List (String × α)}
    (h : (entries.map Prod.fst).Nodup) : ((without name entries).map Prod.fst).Nodup := by
  induction entries with
  | nil => simp [without]
  | cons entry rest ih =>
    obtain ⟨n, v⟩ := entry
    simp only [List.map_cons, List.nodup_cons] at h
    by_cases hn : n = name
    · simpa [without, hn] using h.2
    · simp only [without, if_neg hn, List.map_cons, List.nodup_cons]
      exact ⟨fun hm => h.1 (keys_without_subset hm), ih h.2⟩

def empty : OrderedMap α := ⟨[], List.nodup_nil⟩

instance : EmptyCollection (OrderedMap α) := ⟨empty⟩
instance : Inhabited (OrderedMap α) := ⟨empty⟩

def size (m : OrderedMap α) : Nat := m.entries.length

def keys (m : OrderedMap α) : List String := m.entries.map Prod.fst

def values (m : OrderedMap α) : List α := m.entries.map Prod.snd

def toList (m : OrderedMap α) : List (String × α) := m.entries

def get? (m : OrderedMap α) (name : String) : Option α := find? name m.entries

def contains (m : OrderedMap α) (name : String) : Bool := (m.get? name).isSome

def insert (m : OrderedMap α) (name : String) (value : α) : OrderedMap α :=
  ⟨upsert name value m.entries, nodup_upsert m.distinct⟩

def erase (m : OrderedMap α) (name : String) : OrderedMap α :=
  ⟨without name m.entries, nodup_without m.distinct⟩

def insertAll (m : OrderedMap α) (entries : List (String × α)) : OrderedMap α :=
  entries.foldl (fun m entry => m.insert entry.1 entry.2) m

def merge (m other : OrderedMap α) : OrderedMap α := m.insertAll other.entries

/-- The map of a list of entries; the last value of a name counts. -/
def ofList (entries : List (String × α)) : OrderedMap α := empty.insertAll entries

/-! ## What a look-up finds after each operation -/

theorem find?_upsert (name other : String) (value : α) (entries : List (String × α)) :
    find? other (upsert name value entries) =
      if other = name then some value else find? other entries := by
  induction entries with
  | nil => by_cases h : other = name <;> simp [upsert, find?, h, Ne.symm]
  | cons entry rest ih =>
    obtain ⟨n, v⟩ := entry
    by_cases hn : n = name
    · subst hn
      by_cases h : other = n
      · simp [upsert, find?, h]
      · simp [upsert, find?, h, Ne.symm h]
    · by_cases h : n = other
      · subst h
        simp [upsert, find?, hn]
      · simp [upsert, find?, hn, h, ih]

theorem find?_eq_none {name : String} {entries : List (String × α)}
    (h : name ∉ entries.map Prod.fst) : find? name entries = none := by
  induction entries with
  | nil => rfl
  | cons entry rest ih =>
    simp only [List.map_cons, List.mem_cons, not_or] at h
    simp [find?, Ne.symm h.1, ih h.2]

theorem find?_without {name other : String} {entries : List (String × α)}
    (h : (entries.map Prod.fst).Nodup) :
    find? other (without name entries) = if other = name then none else find? other entries := by
  induction entries with
  | nil => simp [without, find?]
  | cons entry rest ih =>
    obtain ⟨n, v⟩ := entry
    simp only [List.map_cons, List.nodup_cons] at h
    by_cases hn : n = name
    · subst hn
      by_cases ho : other = n
      · subst ho
        simp [without, find?_eq_none h.1]
      · simp [without, find?, ho, Ne.symm ho]
    · by_cases ho : n = other
      · subst ho
        simp [without, hn, find?]
      · simp [without, hn, find?, ho, ih h.2]

@[simp] theorem get?_empty (name : String) : (empty : OrderedMap α).get? name = none := rfl

@[simp] theorem get?_insert (m : OrderedMap α) (name other : String) (value : α) :
    (m.insert name value).get? other = if other = name then some value else m.get? other :=
  find?_upsert name other value m.entries

@[simp] theorem get?_erase (m : OrderedMap α) (name other : String) :
    (m.erase name).get? other = if other = name then none else m.get? other :=
  find?_without m.distinct

theorem mem_keys_insert {m : OrderedMap α} {name other : String} {value : α} :
    other ∈ (m.insert name value).keys ↔ other = name ∨ other ∈ m.keys :=
  mem_keys_upsert

end OrderedMap

end Bitemporal
