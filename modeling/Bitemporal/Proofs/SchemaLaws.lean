import Bitemporal.Schema
import Bitemporal.Proofs.MapperLaws

/-!
# What a schema stores under the names of one field

A schema keeps its mappers under their own fields, so no two of its bitemporal mappers share a
stored name. Where no long mapper takes one of these names either, a document holds under them what
the mapper of the field stores, whatever the other mappers store.
-/

namespace Bitemporal

-- ---------------------------------------------------------------------------
-- The names of a mapper
-- ---------------------------------------------------------------------------

namespace BitemporalMapper

variable {m : BitemporalMapper} {record : Record} {part : Fields}

theorem documentFields_ok : m.documentFields record = .ok part ↔
    (m.store record = .ok none ∧ part = ∅) ∨
      ∃ ends, m.readEnds record = .ok (ends.map some) ∧ Forward ends ∧
        part = (m.stored ends).fields := by
  rw [documentFields, map_ok]
  constructor
  · rintro ⟨_ | s, hstore, rfl⟩
    · exact .inl ⟨hstore, rfl⟩
    · obtain ⟨ends, hread, hf, rfl⟩ := store_some_iff.mp hstore
      exact .inr ⟨ends, hread, hf, rfl⟩
  · rintro (⟨hstore, rfl⟩ | ⟨ends, hread, hf, rfl⟩)
    · exact ⟨none, hstore, rfl⟩
    · exact ⟨_, store_some_iff.mpr ⟨ends, hread, hf, rfl⟩, rfl⟩

end BitemporalMapper

namespace Mapper

variable {m : Mapper} {record : Record} {part : Fields} {name : String}

/-- The names under which a mapper may store. -/
def StoresUnder : Mapper → String → Prop
  | bitemporal m, name => Partition.IsStoredName m.field name
  | long m, name => name = m.field

/-- A long mapper stores the value of its column under its field. -/
theorem get?_documentFields_long {l : LongMapper} (h : (long l).documentFields record = .ok part) :
    ∃ n, l.readInteger (record.column l.column) = .ok n ∧
      ∀ name, part.get? name = if name = l.field then n else none := by
  obtain ⟨n, hn, rfl⟩ := map_ok.mp h
  refine ⟨n, hn, fun name => ?_⟩
  cases n with
  | none => rw [OrderedMap.get?_emptyCollection, ite_self]
  | some v => exact OrderedMap.get?_singleton ..

/-- A mapper stores under its own names only. -/
theorem get?_documentFields_of_not (h : m.documentFields record = .ok part)
    (hname : ¬ m.StoresUnder name) : part.get? name = none := by
  cases m with
  | bitemporal m =>
    rcases BitemporalMapper.documentFields_ok.mp h with ⟨-, rfl⟩ | ⟨ends, -, -, rfl⟩
    · rfl
    · by_contra hget
      exact hname (BitemporalMapper.isStoredName_of_get?_stored hget)
  | long l =>
    obtain ⟨n, -, hget⟩ := get?_documentFields_long h
    exact (hget name).trans (if_neg hname)

end Mapper

-- ---------------------------------------------------------------------------
-- Schemas under their fields
-- ---------------------------------------------------------------------------

namespace Schema

variable {s t : Schema} {mappers pre post : List Mapper} {record : Record} {fields doc : Fields}
  {field name : String}

/-- Every mapper is kept under its own field. -/
def Keyed (s : Schema) : Prop := ∀ name m, s.get? name = some m → m.field = name

theorem Keyed.add {m : Mapper} (h : s.Keyed) (hadd : s.add m = .ok t) : t.Keyed := by
  unfold Schema.add at hadd
  split at hadd
  · cases hadd
  · cases hadd
    intro name other hget
    rw [get?, OrderedMap.get?_insert] at hget
    split at hget
    · cases hget
      symm
      assumption
    · exact h name other hget

theorem keyed_foldlM (h : s.Keyed) (hadd : mappers.foldlM Schema.add s = .ok t) : t.Keyed := by
  induction mappers generalizing s with
  | nil =>
    cases hadd
    exact h
  | cons m rest ih =>
    obtain ⟨next, hnext, hrest⟩ := bind_ok.mp hadd
    exact ih (h.add hnext) hrest

theorem keyed_empty : Keyed empty := fun name m hget => by
  rw [get?, empty, OrderedMap.get?_emptyCollection] at hget
  cases hget

theorem keyed_ofMappers (h : ofMappers mappers = .ok s) : s.Keyed :=
  keyed_foldlM keyed_empty h

theorem Keyed.get?_of_mem {m : Mapper} (h : s.Keyed) (hm : m ∈ s.mappers.values) :
    s.get? m.field = some m := by
  obtain ⟨⟨key, m⟩, hentry, rfl⟩ := List.mem_map.mp hm
  have hget := OrderedMap.mem_entries_iff.mp hentry
  exact h key m hget ▸ hget

theorem bitemporalMapper_ok {m : BitemporalMapper} :
    s.bitemporalMapper field = .ok m ↔ s.get? field = some (.bitemporal m) := by
  unfold bitemporalMapper
  split <;> simp_all

-- ---------------------------------------------------------------------------
-- Collecting fields
-- ---------------------------------------------------------------------------

theorem collect_cons_ok {m : Mapper} {rest : List Mapper} :
    collect record fields (m :: rest) = .ok doc ↔
      ∃ part, m.documentFields record = .ok part ∧
        collect record (fields.merge part) rest = .ok doc := by
  rw [collect, bind_ok]

theorem collect_append_ok : collect record fields (pre ++ post) = .ok doc ↔
    ∃ mid, collect record fields pre = .ok mid ∧ collect record mid post = .ok doc := by
  induction pre generalizing fields with
  | nil => simp [collect]
  | cons m rest ih =>
    simp only [List.cons_append, collect_cons_ok, ih]
    constructor
    · rintro ⟨part, hpart, mid, hrest, hpost⟩
      exact ⟨mid, ⟨part, hpart, hrest⟩, hpost⟩
    · rintro ⟨mid, ⟨part, hpart, hrest⟩, hpost⟩
      exact ⟨part, hpart, mid, hrest, hpost⟩

/-- Mappers leave alone what is not under their names. -/
theorem get?_collect_of_not (h : collect record fields mappers = .ok doc)
    (hnames : ∀ m ∈ mappers, ¬ m.StoresUnder name) : doc.get? name = fields.get? name := by
  induction mappers generalizing fields with
  | nil =>
    cases h
    rfl
  | cons m rest ih =>
    obtain ⟨part, hpart, hrest⟩ := collect_cons_ok.mp h
    rw [ih hrest fun other hother => hnames other (List.mem_cons_of_mem m hother),
      OrderedMap.get?_merge,
      Mapper.get?_documentFields_of_not hpart (hnames m List.mem_cons_self), Option.none_or]

/-- A document holds under the names of one mapper what that mapper stores. -/
theorem collect_split {m : Mapper} (h : collect record ∅ (pre ++ m :: post) = .ok doc) :
    ∃ part, m.documentFields record = .ok part ∧
      ∀ name, (∀ other ∈ pre ++ post, ¬ other.StoresUnder name) →
        doc.get? name = part.get? name := by
  obtain ⟨mid, hpre, hrest⟩ := collect_append_ok.mp h
  obtain ⟨part, hpart, hpost⟩ := collect_cons_ok.mp hrest
  refine ⟨part, hpart, fun name hnames => ?_⟩
  rw [get?_collect_of_not hpost fun other ho => hnames other (List.mem_append_right pre ho),
    OrderedMap.get?_merge,
    get?_collect_of_not hpre fun other ho => hnames other (List.mem_append_left post ho),
    OrderedMap.get?_emptyCollection, Option.or_none]

/-- No long mapper of a schema has a stored name of a bitemporal field as its own field. -/
def Clear (s : Schema) (field : String) : Prop :=
  ∀ m, .long m ∈ s.mappers.values → ¬ Partition.IsStoredName field m.field

theorem longMapper_ok {l : LongMapper} :
    s.longMapper field = .ok l ↔ s.get? field = some (.long l) := by
  unfold longMapper
  split <;> simp_all

/-- No mapper of another field stores under a name. -/
def Owns (s : Schema) (field name : String) : Prop :=
  ∀ m ∈ s.mappers.values, m.StoresUnder name → m.field = field

/-- The mappers of a schema around the mapper of a field have other fields. -/
theorem values_split {m : Mapper} (hs : s.Keyed) (hm : s.get? field = some m) :
    ∃ pre post, s.mappers.values = pre ++ m :: post ∧ ∀ other ∈ pre ++ post, other.field ≠ field := by
  obtain ⟨pre, post, hsplit⟩ := List.append_of_mem (OrderedMap.mem_entries_iff.mpr hm)
  refine ⟨pre.map Prod.snd, post.map Prod.snd, by simp [OrderedMap.values, hsplit], ?_⟩
  intro other hother
  rw [← List.map_append] at hother
  obtain ⟨⟨key, other⟩, hentry, rfl⟩ := List.mem_map.mp hother
  have hmem : (key, other) ∈ s.mappers.entries := by
    rw [hsplit]
    rcases List.mem_append.mp hentry with h | h <;> simp [h]
  have hkey : key ≠ field := by
    have hdistinct := s.mappers.distinct
    rw [hsplit, List.map_append, List.map_cons, List.nodup_middle, ← List.map_append,
      List.nodup_cons] at hdistinct
    rintro rfl
    exact hdistinct.1 (List.mem_map.mpr ⟨_, hentry, rfl⟩)
  rw [hs key other (OrderedMap.mem_entries_iff.mp hmem)]
  exact hkey

theorem documentFields_of_owned {m : Mapper} (hs : s.Keyed) (hm : s.get? field = some m)
    (h : s.documentFields record = .ok doc) :
    ∃ part, m.documentFields record = .ok part ∧
      ∀ name, s.Owns field name → doc.get? name = part.get? name := by
  obtain ⟨pre, post, hvalues, hfields⟩ := values_split hs hm
  have hdoc := h
  rw [documentFields, hvalues] at hdoc
  obtain ⟨part, hpart, hget⟩ := collect_split hdoc
  refine ⟨part, hpart, fun name howns => hget name fun other hother hstores => ?_⟩
  have hmem : other ∈ s.mappers.values := by
    rw [hvalues]
    rcases List.mem_append.mp hother with h | h <;> simp [h]
  exact hfields other hother (howns other hmem hstores)

theorem Clear.owns (hc : s.Clear field) (hname : Partition.IsStoredName field name) :
    s.Owns field name := by
  intro m hm hstores
  cases m with
  | bitemporal m => exact Partition.IsStoredName.unique hstores hname
  | long l => exact absurd (hstores ▸ hname) (hc l hm)

theorem documentFields_of_field {m : BitemporalMapper} (hs : s.Keyed)
    (hm : s.get? field = some (.bitemporal m)) (hc : s.Clear field)
    (h : s.documentFields record = .ok doc) :
    ∃ part, m.documentFields record = .ok part ∧
      ∀ name, Partition.IsStoredName field name → doc.get? name = part.get? name := by
  obtain ⟨part, hpart, hget⟩ := documentFields_of_owned hs hm h
  exact ⟨part, hpart, fun name hname => hget name (hc.owns hname)⟩

end Schema

end Bitemporal
