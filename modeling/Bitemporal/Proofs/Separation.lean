import Bitemporal.Proofs.Replacement

/-!
# Mappers do not interfere

Mappers of different fields store under different names, as long as no long mapper takes a stored
name of a bitemporal one. So a document is the disjoint union of what its mappers store, in
whatever order they stand in the schema. A condition on a bitemporal field reads names of that
field alone, and what is stored under these depends on the four columns of its mapper. Runs that
agree on these columns therefore answer the condition alike.
-/

namespace Bitemporal

-- ---------------------------------------------------------------------------
-- Mappers apart from each other
-- ---------------------------------------------------------------------------

namespace Mapper

variable {m other : Mapper} {record : Record} {part part' : Fields}

def Apart (m other : Mapper) : Prop := ∀ name, m.StoresUnder name → ¬ other.StoresUnder name

theorem apart_of_ne (h : m.field ≠ other.field)
    (hm : ∀ g l, m = .bitemporal g → other = .long l → ¬ Partition.IsStoredName g.field l.field)
    (ho : ∀ g l, other = .bitemporal g → m = .long l → ¬ Partition.IsStoredName g.field l.field) :
    m.Apart other := by
  intro name hname hother
  cases m with
  | bitemporal g =>
    cases other with
    | bitemporal g' => exact h (Partition.IsStoredName.unique hname hother)
    | long l => exact hm g l rfl rfl (hother ▸ hname)
  | long l =>
    cases other with
    | bitemporal g => exact ho g l rfl rfl (hname ▸ hother)
    | long l' => exact h (hname.symm.trans hother)

theorem Apart.disjoint (h : m.Apart other) (hm : m.documentFields record = .ok part)
    (ho : other.documentFields record = .ok part') : part.Disjoint part' := by
  intro name
  by_cases hname : m.StoresUnder name
  · exact .inr (get?_documentFields_of_not ho (h name hname))
  · exact .inl (get?_documentFields_of_not hm hname)

end Mapper

-- ---------------------------------------------------------------------------
-- Documents as unions
-- ---------------------------------------------------------------------------

namespace Schema

variable {s : Schema} {mappers others : List Mapper} {record : Record} {fields doc : Fields}

theorem exists_foldlM_add (hd : (mappers.map Mapper.field).Nodup)
    (hs : ∀ field ∈ mappers.map Mapper.field, field ∉ s.mappers.keys) :
    ∃ t, mappers.foldlM Schema.add s = .ok t ∧
      t.mappers.values = s.mappers.values ++ mappers := by
  induction mappers generalizing s with
  | nil => exact ⟨s, rfl, (List.append_nil _).symm⟩
  | cons m rest ih =>
    obtain ⟨hm, hrest⟩ := List.nodup_cons.mp hd
    obtain ⟨hhead, htail⟩ := List.forall_mem_cons.mp hs
    have hnext : s.add m = .ok ⟨s.mappers.insert m.field m⟩ := by
      rw [Schema.add, if_neg]
      exact fun hc => hhead (OrderedMap.mem_keys_iff.mpr hc)
    obtain ⟨t, ht, hvalues⟩ := ih (s := ⟨s.mappers.insert m.field m⟩) hrest
      fun field hfield hkey => by
        rcases OrderedMap.mem_keys_insert.mp hkey with rfl | hkey
        · exact hm hfield
        · exact htail field hfield hkey
    refine ⟨t, bind_ok.mpr ⟨_, hnext, ht⟩, ?_⟩
    rw [hvalues, OrderedMap.values, OrderedMap.entries_insert hhead, List.map_append,
      List.append_assoc]
    rfl

/-- A schema takes every list of mappers with distinct fields, and keeps its order. -/
theorem exists_ofMappers (h : (mappers.map Mapper.field).Nodup) :
    ∃ s, ofMappers mappers = .ok s ∧ s.mappers.values = mappers :=
  exists_foldlM_add h fun _ _ => List.not_mem_nil

/-- A record is accepted when every mapper accepts it. -/
theorem exists_collect_iff : (∃ doc, collect record fields mappers = .ok doc) ↔
    ∀ m ∈ mappers, ∃ part, m.documentFields record = .ok part := by
  induction mappers generalizing fields with
  | nil => simp [collect]
  | cons m rest ih =>
    simp only [collect_cons_ok, List.forall_mem_cons]
    constructor
    · rintro ⟨doc, part, hpart, hdoc⟩
      exact ⟨⟨part, hpart⟩, ih.mp ⟨doc, hdoc⟩⟩
    · rintro ⟨⟨part, hpart⟩, hrest⟩
      obtain ⟨doc, hdoc⟩ := ih.mpr hrest
      exact ⟨doc, part, hpart, hdoc⟩

/-- Mappers that are apart add their fields one behind another. -/
theorem collect_apart (hd : mappers.Pairwise Mapper.Apart)
    (hfields : ∀ m ∈ mappers, ∀ name, m.StoresUnder name → fields.get? name = none)
    (h : collect record fields mappers = .ok doc) :
    ∃ parts, List.Forall₂ (fun m part => m.documentFields record = .ok part) mappers parts ∧
      parts.Pairwise OrderedMap.Disjoint ∧
      doc.entries = fields.entries ++ parts.flatMap OrderedMap.entries := by
  induction mappers generalizing fields with
  | nil =>
    cases h
    exact ⟨[], .nil, .nil, (List.append_nil _).symm⟩
  | cons m rest ih =>
    obtain ⟨part, hpart, hrest⟩ := collect_cons_ok.mp h
    obtain ⟨hm, hd⟩ := List.pairwise_cons.mp hd
    obtain ⟨hhead, htail⟩ := List.forall_mem_cons.mp hfields
    obtain ⟨parts, hparts, hdisjoint, hentries⟩ := ih hd (fun other ho name hname => by
      rw [OrderedMap.get?_merge, htail other ho name hname,
        Mapper.get?_documentFields_of_not hpart fun h => hm other ho name h hname]
      rfl) hrest
    have hfresh : fields.Disjoint part := fun name => by
      by_cases hname : m.StoresUnder name
      · exact .inl (hhead name hname)
      · exact .inr (Mapper.get?_documentFields_of_not hpart hname)
    refine ⟨part :: parts, .cons hpart hparts, .cons (fun part' hpart' => ?_) hdisjoint, ?_⟩
    · obtain ⟨i, hi, rfl⟩ := List.getElem_of_mem hpart'
      obtain ⟨hlength, hget⟩ := List.forall₂_iff_get.mp hparts
      exact (hm _ (List.get_mem ..)).disjoint hpart (hget i (hlength ▸ hi) hi)
    · rw [hentries, OrderedMap.entries_merge hfresh, List.flatMap_cons, List.append_assoc]

/-- A document holds what any of its mappers stores. -/
theorem get?_collect_apart (hd : mappers.Pairwise Mapper.Apart)
    (h : collect record ∅ mappers = .ok doc) {name : String} {v : Int} :
    doc.get? name = some v ↔
      ∃ m ∈ mappers, ∃ part, m.documentFields record = .ok part ∧ part.get? name = some v := by
  obtain ⟨parts, hparts, -, hentries⟩ := collect_apart hd (fun _ _ _ _ => rfl) h
  obtain ⟨hlength, hget⟩ := List.forall₂_iff_get.mp hparts
  have hnil : (∅ : Fields).entries = [] := rfl
  rw [← OrderedMap.mem_entries_iff, hentries, hnil, List.nil_append, List.mem_flatMap]
  simp only [OrderedMap.mem_entries_iff]
  constructor
  · rintro ⟨part, hpart, hv⟩
    obtain ⟨i, hi, rfl⟩ := List.getElem_of_mem hpart
    exact ⟨_, List.get_mem mappers ⟨i, hlength ▸ hi⟩, _, hget i (hlength ▸ hi) hi, hv⟩
  · rintro ⟨m, hm, part, hpart, hv⟩
    obtain ⟨i, hi, rfl⟩ := List.getElem_of_mem hm
    have hsame := hget i hi (hlength ▸ hi)
    rw [List.get_eq_getElem, hpart] at hsame
    exact ⟨_, List.get_mem parts ⟨i, hlength ▸ hi⟩, Except.ok.inj hsame ▸ hv⟩

end Schema

-- ---------------------------------------------------------------------------
-- What a condition reads
-- ---------------------------------------------------------------------------

namespace Rectangle

variable {r : Rectangle} {field name : String}

theorem isStoredName_alternative (r : Rectangle) (field : String) (p : Partition) :
    ∀ name ∈ (r.alternative field p : Predicate Binary64).fields,
      Partition.IsStoredName field name := by
  cases p <;> simp [alternative, overlap, between, Predicate.fields, Partition.IsStoredName.axis]

/-- The predicate of a rectangle reads names of its field only. -/
theorem isStoredName_predicate {boost : Binary64} (h : name ∈ (r.predicate field boost).fields) :
    Partition.IsStoredName field name := by
  unfold predicate at h
  split at h
  · rw [Predicate.fields, List.mem_singleton] at h
    exact h ▸ .flag field
  · rw [Predicate.fields_withBoost, Predicate.fields_anyOf, List.mem_flatMap] at h
    obtain ⟨_, hpart, h⟩ := h
    obtain ⟨p, -, rfl⟩ := List.mem_map.mp hpart
    exact isStoredName_alternative r field p name h

end Rectangle

-- ---------------------------------------------------------------------------
-- Runs that agree on the columns of a mapper
-- ---------------------------------------------------------------------------

namespace BitemporalMapper

variable {m : BitemporalMapper} {record other : Record}

/-- Equal values in the four columns of a mapper, whatever the other columns hold. -/
def Agree (m : BitemporalMapper) (record other : Record) : Prop :=
  ∀ axis, record.column (m.columns.get axis) = other.column (m.columns.get axis)

theorem Agree.documentFields (h : m.Agree record other) :
    m.documentFields record = m.documentFields other := by
  simp only [BitemporalMapper.documentFields, store, readEnds, h _]

end BitemporalMapper

namespace Index

variable {x y : Index} {schema : Schema} {m : BitemporalMapper} {records others : Records}

/-- The same hits, in the same order where all scores are numbers, or the same failure. -/
inductive SameAnswer : Except Error (List Hit) → Except Error (List Hit) → Prop where
  | found {hits others : List Hit} (perm : hits.Perm others)
      (eq : (∀ hit ∈ hits, hit.score ≠ .nan) → hits = others) : SameAnswer (.ok hits) (.ok others)
  | failed (e : Error) : SameAnswer (.error e) (.error e)

/-- Indexes of the same identifiers, whose records agree on the columns of a mapper, score their
documents alike under conditions on its field. -/
theorem Holds.score_eq (hx : x.Holds schema records) (hy : y.Holds schema others)
    (hs : schema.Keyed) (hm : schema.get? m.field = some (.bitemporal m))
    (hc : schema.Clear m.field) (hagree : ∀ id, Option.Rel m.Agree (records id) (others id))
    (r : Rectangle) (boost : Binary64) (id : String) :
    (x.store.get? id).bind (fun doc => (r.predicate m.field boost).score? doc) =
      (y.store.get? id).bind fun doc => (r.predicate m.field boost).score? doc := by
  have hid := hagree id
  cases hrecord : records id with
  | none =>
    cases hother : others id with
    | none => rw [hx.absent id hrecord, hy.absent id hother]
    | some other =>
      rw [hrecord, hother] at hid
      cases hid
  | some record =>
    cases hother : others id with
    | none =>
      rw [hrecord, hother] at hid
      cases hid
    | some other =>
      rw [hrecord, hother] at hid
      cases hid with
      | some hid =>
        obtain ⟨doc, hdoc, hget⟩ := hx.present id record hrecord
        obtain ⟨doc', hdoc', hget'⟩ := hy.present id other hother
        obtain ⟨part, hpart, hnames⟩ := Schema.documentFields_of_field hs hm hc hdoc
        obtain ⟨part', hpart', hnames'⟩ := Schema.documentFields_of_field hs hm hc hdoc'
        rw [← hid.documentFields, hpart] at hpart'
        obtain rfl := Except.ok.inj hpart'
        rw [hget, hget', Option.bind_some, Option.bind_some]
        refine Predicate.score?_congr _ fun name hname => ?_
        have hstored := Rectangle.isStoredName_predicate hname
        rw [hnames name hstored, hnames' name hstored]

theorem defaultBoost_run (x : Index) (ops : List Operation) :
    (x.run ops).defaultBoost = x.defaultBoost := by
  induction ops generalizing x with
  | nil => rfl
  | cons op rest ih =>
    refine (ih (x.apply op)).trans ?_
    cases op with
    | delete id => rfl
    | insert id record =>
      rcases x.insert_cases id record with ⟨e, hinsert⟩ | ⟨fields, hinsert⟩
      · rw [apply_insert hinsert]
      · rw [apply_insert hinsert]

/-- Such indexes answer the conditions on the field alike. -/
theorem Holds.sameAnswer (hx : x.Holds schema records) (hy : y.Holds schema others)
    (hboost : x.defaultBoost = y.defaultBoost) (hs : schema.Keyed)
    (hm : schema.get? m.field = some (.bitemporal m)) (hc : schema.Clear m.field)
    (hagree : ∀ id, Option.Rel m.Agree (records id) (others id)) {c : BitemporalCondition}
    (hfield : c.field = m.field) :
    SameAnswer (x.search (.bitemporal c) [] none) (y.search (.bitemporal c) [] none) := by
  have hmapper : schema.bitemporalMapper c.field = .ok m :=
    Schema.bitemporalMapper_ok.mpr (hfield ▸ hm)
  have hxmapper := (congrArg (·.bitemporalMapper c.field) hx.schema_eq).trans hmapper
  have hymapper := (congrArg (·.bitemporalMapper c.field) hy.schema_eq).trans hmapper
  cases hr : c.rectangle m with
  | error e =>
    have hfails {z : Index} (hz : z.schema.bitemporalMapper c.field = .ok m) :
        z.search (.bitemporal c) [] none = .error e := by
      simp only [search, query, Condition.query, hz, bind, Except.bind, hr]
      rfl
    rw [hfails hxmapper, hfails hymapper]
    exact .failed e
  | ok r =>
    rw [search_eq (query_bitemporal hxmapper hr), search_eq (query_bitemporal hymapper hr),
      hboost]
    have hperm := hx.consistent.search_perm hy.consistent (hx.score_eq hy hs hm hc hagree r
      ((Condition.bitemporal c).effectiveBoost y.defaultBoost))
    exact .found hperm (hx.consistent.search_eq_of_perm hy.consistent hperm)

end Index

-- ---------------------------------------------------------------------------
-- Schemas of separate mappers
-- ---------------------------------------------------------------------------

/-- The fields of mappers are distinct, and no long mapper is under a stored name of a bitemporal
one. -/
structure Separate (mappers : List Mapper) : Prop where
  fields : (mappers.map Mapper.field).Nodup
  clear : ∀ g l, .bitemporal g ∈ mappers → .long l ∈ mappers →
    ¬ Partition.IsStoredName g.field l.field

namespace Separate

variable {mappers others : List Mapper} {schema : Schema} {record : Record} {doc : Fields}

theorem perm (h : Separate mappers) (hp : others.Perm mappers) : Separate others :=
  ⟨(hp.map Mapper.field).nodup_iff.mpr h.fields,
    fun g l hg hl => h.clear g l (hp.mem_iff.mp hg) (hp.mem_iff.mp hl)⟩

theorem apart (h : Separate mappers) : mappers.Pairwise Mapper.Apart :=
  (List.pairwise_map.mp h.fields).imp_of_mem fun hm ho hne =>
    Mapper.apart_of_ne hne (fun g l hg hl => h.clear g l (hg ▸ hm) (hl ▸ ho))
      fun g l hg hl => h.clear g l (hg ▸ ho) (hl ▸ hm)

/-- The order of separate mappers does not matter. -/
theorem documentFields_perm (h : Separate mappers) (hp : others.Perm mappers)
    (hdoc : Schema.collect record ∅ mappers = .ok doc) :
    ∃ doc', Schema.collect record ∅ others = .ok doc' ∧ doc'.get? = doc.get? := by
  obtain ⟨doc', hdoc'⟩ := Schema.exists_collect_iff.mpr fun m hm =>
    Schema.exists_collect_iff.mp ⟨doc, hdoc⟩ m (hp.mem_iff.mp hm)
  refine ⟨doc', hdoc', funext fun name => Option.ext fun v => ?_⟩
  rw [Schema.get?_collect_apart h.apart hdoc, Schema.get?_collect_apart (h.perm hp).apart hdoc']
  simp only [hp.mem_iff]

end Separate

namespace Index

/-- Separate mappers make up a schema in which each stores what it would store alone. Conditions on
a bitemporal field are answered from the four columns of its mapper. -/
theorem mappers_separate {mappers : List Mapper} (h : Separate mappers) :
    ∃ schema, Schema.ofMappers mappers = .ok schema ∧
      (∀ (x : Index) id record doc next, x.schema = schema →
        x.insert id record = (.ok doc, next) →
        ∃ parts, List.Forall₂ (fun m part => m.documentFields record = .ok part) mappers parts ∧
          parts.Pairwise OrderedMap.Disjoint ∧
          doc.entries = parts.flatMap OrderedMap.entries) ∧
      (∀ others, others.Perm mappers → ∃ reordered, Schema.ofMappers others = .ok reordered ∧
        ∀ record doc, schema.documentFields record = .ok doc →
          ∃ doc', reordered.documentFields record = .ok doc' ∧ doc'.get? = doc.get?) ∧
      ∀ (m : BitemporalMapper) (c : BitemporalCondition) (boost : Binary64) ops others,
        .bitemporal m ∈ mappers → c.field = m.field →
        (∀ id, Option.Rel m.Agree (current schema ops id) (current schema others id)) →
        SameAnswer (((empty schema boost).run ops).search (.bitemporal c) [] none)
          (((empty schema boost).run others).search (.bitemporal c) [] none) := by
  obtain ⟨schema, hschema, hvalues⟩ := Schema.exists_ofMappers h.fields
  refine ⟨schema, hschema, fun x id record doc next hx hinsert => ?_, fun others hp => ?_,
    fun m c boost ops others hm hfield hagree => ?_⟩
  · obtain ⟨hdoc, -⟩ := insert_ok.mp hinsert
    rw [hx, Schema.documentFields, hvalues] at hdoc
    exact Schema.collect_apart h.apart (fun _ _ _ _ => rfl) hdoc
  · obtain ⟨reordered, hreordered, hvalues'⟩ := Schema.exists_ofMappers (h.perm hp).fields
    refine ⟨reordered, hreordered, fun record doc hdoc => ?_⟩
    rw [Schema.documentFields, hvalues] at hdoc
    rw [Schema.documentFields, hvalues']
    exact h.documentFields_perm hp hdoc
  · have hkeyed := Schema.keyed_ofMappers hschema
    refine (holds_run schema boost ops).sameAnswer (holds_run schema boost others) ?_ hkeyed
      (hkeyed.get?_of_mem (hvalues.symm ▸ hm))
      (fun l hl => h.clear m l hm (hvalues ▸ hl)) hagree hfield
    rw [defaultBoost_run, defaultBoost_run]

/-- Fields may continue each other, and a column that only a long mapper reads does not count. -/
theorem mappers_separate_dotted :
    let m : BitemporalMapper := ⟨"a", Ends.ofFn Axis.column, InstantFormat.ofPattern none,
      nowMillis, Nat.le_refl nowMillis⟩
    let mappers : List Mapper :=
      [.bitemporal m, .long ⟨"a.T1", "n"⟩, .bitemporal { m with field := "a.T1.T1UT2" }]
    let schema : Schema := ⟨OrderedMap.ofList (mappers.map fun m => (m.field, m))⟩
    let record (n : Int) : Record := (BitemporalMapper.recordOf
      (Ends.millis ⟨.earliest, ⟨20, by decide⟩, .earliest, .now⟩)).insert "n" (.int n)
    let ops (n : Int) : List Operation := [.insert "id" (record n)]
    let c : BitemporalCondition := ⟨"a", none, Ends.ofFn fun _ => none⟩
    Separate mappers ∧ Schema.ofMappers mappers = .ok schema ∧
      current schema (ops 1) "id" = some (record 1) ∧
      current schema (ops 2) "id" = some (record 2) ∧
      SameAnswer (((empty schema 1).run (ops 1)).search (.bitemporal c) [] none)
        (((empty schema 1).run (ops 2)).search (.bitemporal c) [] none) := by
  intro m mappers schema record ops c
  have hseparate : Separate mappers := by
    refine ⟨by decide, fun g l hg hl => ?_⟩
    obtain rfl : l = ⟨"a.T1", "n"⟩ := by simpa [mappers] using hl
    obtain rfl | rfl : g = m ∨ g = { m with field := "a.T1.T1UT2" } := by
      simpa [mappers] using hg
    all_goals
      rintro (h | ⟨p, axis, h⟩)
      · exact absurd h (by decide)
      · cases p <;> cases axis <;> exact absurd h (by decide)
  have hcurrent (n : Int) (h : (schema.documentFields (record n)).isOk = true) (id : String) :
      current schema (ops n) id = if id = "id" then some (record n) else none := by
    cases hdoc : schema.documentFields (record n) with
    | error e =>
      rw [hdoc] at h
      cases h
    | ok doc => simp only [current, ops, List.foldl_cons, List.foldl_nil, Operation.effect, hdoc]
  have hone := hcurrent 1 (by decide +kernel)
  have htwo := hcurrent 2 (by decide +kernel)
  have hagree (id : String) :
      Option.Rel m.Agree (current schema (ops 1) id) (current schema (ops 2) id) := by
    rw [hone id, htwo id]
    by_cases hid : id = "id"
    · rw [if_pos hid, if_pos hid]
      exact .some fun axis => by cases axis <;> rfl
    · rw [if_neg hid, if_neg hid]
      exact .none
  have hschema : Schema.ofMappers mappers = .ok schema := rfl
  obtain ⟨_, hmade, -, -, hsame⟩ := mappers_separate hseparate
  obtain rfl := Except.ok.inj (hmade.symm.trans hschema)
  exact ⟨hseparate, hschema, hone "id", htwo "id",
    hsame m c 1 (ops 1) (ops 2) List.mem_cons_self rfl hagree⟩

end Index

end Bitemporal
