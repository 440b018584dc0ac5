import Bitemporal.Proofs.IndexRuns
import Bitemporal.Proofs.StandardSchema

/-!
# Taking a record in is all or nothing

An index may be made over a store that was filled in any way, and mappers may be added to its
schema at any time. In every index that is reached so, a record that some mapper rejects changes
nothing, and an accepted one replaces the earlier version of its document in all field indexes:
each of them holds of the document exactly what the new version has, and of the other documents
what it held before.
-/

namespace Bitemporal

-- ---------------------------------------------------------------------------
-- The entries of one document in a field index
-- ---------------------------------------------------------------------------

namespace FieldIndex

variable {ix : FieldIndex} {id : String} {value : Int}

def entriesOf (ix : FieldIndex) (id : String) : List (Int × String) :=
  ix.entries.filter fun entry => entry.2 = id

def entriesBeside (ix : FieldIndex) (id : String) : List (Int × String) :=
  ix.entries.filter fun entry => entry.2 ≠ id

theorem filter_place {keep : Int × String → Bool} (h : keep (value, id) = false)
    (entries : List (Int × String)) :
    (place value id entries).filter keep = entries.filter keep := by
  induction entries with
  | nil => simp [place, h]
  | cons entry rest ih =>
    obtain ⟨w, i⟩ := entry
    rw [place]
    split
    · rw [List.filter_cons_of_neg (by simp [h])]
    · rw [List.filter_cons, List.filter_cons, ih]

@[simp] theorem entriesOf_remove (ix : FieldIndex) (id : String) :
    (ix.remove id).entriesOf id = [] := by
  simp [entriesOf, remove]

@[simp] theorem entriesBeside_remove (ix : FieldIndex) (id : String) :
    (ix.remove id).entriesBeside id = ix.entriesBeside id := by
  simp [entriesBeside, remove]

@[simp] theorem entriesOf_add (ix : FieldIndex) (id : String) (value : Int) :
    (ix.add id value).entriesOf id = [(value, id)] := by
  have hperm := (place_perm value id (ix.remove id).entries).filter fun entry => entry.2 = id
  have hrest : (ix.remove id).entries.filter (fun entry => entry.2 = id) = [] :=
    entriesOf_remove ix id
  rw [List.filter_cons_of_pos (by simp), hrest] at hperm
  exact List.perm_singleton.mp hperm

@[simp] theorem entriesBeside_add (ix : FieldIndex) (id : String) (value : Int) :
    (ix.add id value).entriesBeside id = ix.entriesBeside id := by
  rw [entriesBeside, add, filter_place (by simp)]
  exact entriesBeside_remove ix id

/-- There is nothing to remove of a document without a value. -/
theorem Ordered.remove_absent (h : ix.Ordered) (hv : ix.value? id = none) : ix.remove id = ix := by
  have hkeep : ∀ entry ∈ ix.entries, entry.2 ≠ id := by
    rintro ⟨v, i⟩ hentry rfl
    rw [h.value?_eq_some_iff.mpr hentry] at hv
    cases hv
  rw [FieldIndex.remove, List.filter_eq_self.mpr (by simpa using hkeep)]

end FieldIndex

-- ---------------------------------------------------------------------------
-- The entries of one document in a store
-- ---------------------------------------------------------------------------

namespace DocumentStore

variable {s : DocumentStore}

/-- Deleting a document takes it out of the index of every field. -/
theorem Consistent.index_delete (h : s.Consistent) (id field : String) :
    (s.delete id).index field = (s.index field).remove id := by
  have habsent (hv : s.value? id field = none) : s.index field = (s.index field).remove id :=
    ((h.ordered field).remove_absent hv).symm
  cases hdoc : s.get? id with
  | none =>
    rw [delete_absent hdoc]
    exact habsent (by rw [h.value, hdoc, Option.bind_none])
  | some doc =>
    rw [DocumentStore.index_delete hdoc]
    split
    · rfl
    · rename_i hfield
      refine habsent ?_
      rwa [h.value, hdoc, Option.bind_some, ← Option.not_isSome_iff_eq_none,
        ← OrderedMap.mem_keys_iff]

theorem Consistent.entriesOf_put (h : s.Consistent) (id field : String) (doc : Fields) :
    ((s.put id doc).index field).entriesOf id =
      ((doc.get? field).map fun v => (v, id)).toList := by
  rw [index_put, h.index_delete]
  cases doc.get? field <;> simp

theorem Consistent.entriesBeside_put (h : s.Consistent) (id field : String) (doc : Fields) :
    ((s.put id doc).index field).entriesBeside id = (s.index field).entriesBeside id := by
  rw [index_put, h.index_delete]
  cases doc.get? field <;> simp

end DocumentStore

-- ---------------------------------------------------------------------------
-- Rejections
-- ---------------------------------------------------------------------------

namespace Schema

variable {record : Record} {fields : Fields} {mappers : List Mapper} {e : Error}

/-- Collecting fails with the error of the first mapper that rejects the record. -/
theorem collect_error : collect record fields mappers = .error e ↔
    ∃ pre m post, mappers = pre ++ m :: post ∧
      (∀ a ∈ pre, ∃ part, a.documentFields record = .ok part) ∧
      m.documentFields record = .error e := by
  induction mappers generalizing fields with
  | nil => simp [collect]
  | cons a rest ih =>
    cases ha : a.documentFields record with
    | error e' =>
      have hcollect : collect record fields (a :: rest) = .error e' := by
        rw [collect, ha]
        rfl
      rw [hcollect]
      constructor
      · rintro ⟨⟩
        exact ⟨[], a, rest, rfl, by simp, ha⟩
      · rintro ⟨_ | ⟨b, pre⟩, m, post, hsplit, hpre, hm⟩
        · cases hsplit
          exact congrArg Except.error (Except.error.inj (ha.symm.trans hm))
        · cases hsplit
          obtain ⟨part, hpart⟩ := hpre a List.mem_cons_self
          rw [ha] at hpart
          cases hpart
    | ok part =>
      have hcollect : collect record fields (a :: rest) =
          collect record (fields.merge part) rest := by
        rw [collect, ha]
        rfl
      rw [hcollect, ih]
      constructor
      · rintro ⟨pre, m, post, rfl, hpre, hm⟩
        exact ⟨a :: pre, m, post, rfl, List.forall_mem_cons.mpr ⟨⟨part, ha⟩, hpre⟩, hm⟩
      · rintro ⟨_ | ⟨b, pre⟩, m, post, hsplit, hpre, hm⟩
        · cases hsplit
          rw [ha] at hm
          cases hm
        · cases hsplit
          exact ⟨pre, m, post, rfl, fun b hb => hpre b (List.mem_cons_of_mem _ hb), hm⟩

end Schema

namespace Index

variable {x next : Index} {id : String} {record : Record} {fields : Fields} {e : Error}

-- ---------------------------------------------------------------------------
-- Reachable indexes
-- ---------------------------------------------------------------------------

/-- The indexes that can come about. -/
inductive Reachable : Index → Prop
  /-- An index over a store of its own or one that was used before. -/
  | make {mappers : List Mapper} {schema : Schema} (changes : List DocumentStore.Change)
      (boost : Binary64) (hschema : Schema.ofMappers mappers = .ok schema) :
      Reachable ⟨schema, DocumentStore.run changes, boost⟩
  | apply {x : Index} (op : Operation) (hx : Reachable x) : Reachable (x.apply op)
  /-- A mapper more in the schema. -/
  | extend {x : Index} {m : Mapper} {schema : Schema} (hx : Reachable x)
      (hadd : x.schema.add m = .ok schema) : Reachable { x with schema := schema }

theorem Reachable.run (h : x.Reachable) (ops : List Operation) : (x.run ops).Reachable := by
  induction ops generalizing x with
  | nil => exact h
  | cons op rest ih => exact ih (.apply op h)

theorem reachable_run {mappers : List Mapper} {schema : Schema}
    (hschema : Schema.ofMappers mappers = .ok schema) (boost : Binary64) (ops : List Operation) :
    ((empty schema boost).run ops).Reachable :=
  Reachable.run (.make [] boost hschema) ops

theorem insert_ok : x.insert id record = (.ok fields, next) ↔
    x.schema.documentFields record = .ok fields ∧
      next = { x with store := x.store.put id fields } := by
  unfold insert
  cases x.schema.documentFields record with
  | error e => simp
  | ok doc => grind

theorem insert_error : x.insert id record = (.error e, next) ↔
    x.schema.documentFields record = .error e ∧ next = x := by
  unfold insert
  cases x.schema.documentFields record with
  | error e' => simp [eq_comm]
  | ok doc => simp

theorem insert_fst (x : Index) (id : String) (record : Record) :
    (x.insert id record).1 = x.schema.documentFields record := by
  unfold insert
  cases x.schema.documentFields record <;> rfl

theorem apply_insert {result : Except Error Fields} (h : x.insert id record = (result, next)) :
    x.apply (.insert id record) = next := by
  rw [apply, h]

/-- An insertion leaves the index as it was or puts a document into its store. -/
theorem insert_cases (x : Index) (id : String) (record : Record) :
    (∃ e, x.insert id record = (.error e, x)) ∨
      ∃ fields, x.insert id record = (.ok fields, { x with store := x.store.put id fields }) := by
  unfold insert
  cases x.schema.documentFields record with
  | error e => exact .inl ⟨e, rfl⟩
  | ok fields => exact .inr ⟨fields, rfl⟩

/-- An operation leaves the schema alone and keeps the store consistent. -/
theorem apply_keeps (op : Operation) (h : x.store.Consistent) :
    (x.apply op).schema = x.schema ∧ (x.apply op).store.Consistent := by
  cases op with
  | delete id => exact ⟨rfl, h.delete id⟩
  | insert id record =>
    rcases x.insert_cases id record with ⟨e, hinsert⟩ | ⟨fields, hinsert⟩
    · rw [apply_insert hinsert]
      exact ⟨rfl, h⟩
    · rw [apply_insert hinsert]
      exact ⟨rfl, h.put id fields⟩

theorem Reachable.consistent (h : x.Reachable) : x.store.Consistent := by
  induction h with
  | make changes boost hschema => exact DocumentStore.consistent_run changes
  | apply op hx ih => exact (apply_keeps op ih).2
  | extend hx hadd ih => exact ih

theorem Reachable.keyed (h : x.Reachable) : x.schema.Keyed := by
  induction h with
  | make changes boost hschema => exact Schema.keyed_ofMappers hschema
  | apply op hx ih =>
    rw [(apply_keeps op hx.consistent).1]
    exact ih
  | extend hx hadd ih => exact ih.add hadd

/-- A record is rejected as its first rejecting mapper says; the index is then the one that it was,
and every later history goes on as if the record had not been there. An accepted record replaces the
document with its identifier. -/
theorem insert_replaces (h : x.Reachable) (id : String) (record : Record) :
    (∀ e, (x.insert id record).1 = .error e ↔
      ∃ pre m post, x.schema.mappers.values = pre ++ m :: post ∧
        (∀ a ∈ pre, ∃ part, a.documentFields record = .ok part) ∧
        m.documentFields record = .error e) ∧
    (∀ e next, x.insert id record = (.error e, next) →
      next = x ∧ ∀ later, x.run (.insert id record :: later) = x.run later) ∧
    ∀ fields next, x.insert id record = (.ok fields, next) →
      (∀ later, x.run (.insert id record :: later) = next.run later) ∧
      next.get? id = some fields ∧
      (∀ other, other ≠ id → next.get? other = x.get? other) ∧
      ∀ field,
        (next.store.index field).entriesOf id =
          ((fields.get? field).map fun v => (v, id)).toList ∧
        (next.store.index field).entriesBeside id = (x.store.index field).entriesBeside id := by
  refine ⟨fun e => ?_, fun e next herror => ?_, fun fields next hok => ⟨fun later => ?_, ?_⟩⟩
  · rw [insert_fst]
    exact Schema.collect_error
  · obtain ⟨-, rfl⟩ := insert_error.mp herror
    exact ⟨rfl, fun later => congrArg (fun y => run y later) (apply_insert herror)⟩
  · exact congrArg (fun y => run y later) (apply_insert hok)
  · obtain ⟨-, rfl⟩ := insert_ok.mp hok
    have hget := DocumentStore.get?_put x.store id
    refine ⟨(hget id fields).trans (if_pos rfl), fun other hne => ?_, fun field => ⟨?_, ?_⟩⟩
    · exact (hget other fields).trans (if_neg hne)
    · exact h.consistent.entriesOf_put id field fields
    · exact h.consistent.entriesBeside_put id field fields

def nameMapper : Mapper :=
  .bitemporal ⟨"name", Ends.ofFn Axis.column, InstantFormat.ofPattern none, nowMillis,
    Nat.le_refl nowMillis⟩

def numberMapper : Mapper := .long ⟨"n", "n"⟩

def twoMappers : List Mapper := [nameMapper, numberMapper]

def twoMapperSchema : Schema := ⟨OrderedMap.ofList (twoMappers.map fun m => (m.field, m))⟩

def numbered (v : Value) : Record :=
  (BitemporalMapper.recordOf (Ends.millis ⟨.earliest, ⟨20, by decide⟩, .earliest, .now⟩)).insert
    "n" v

/-- The first mapper takes a text for the second one, which rejects it. -/
theorem rejects_text :
    (∃ part, nameMapper.documentFields (numbered (.text "x")) = .ok part) ∧
      numberMapper.documentFields (numbered (.text "x")) =
        .error (.input (.notInteger "n" "n" (.text "x"))) := by
  have hok : (nameMapper.documentFields (numbered (.text "x"))).isOk = true := by decide +kernel
  refine ⟨?_, rfl⟩
  cases hname : nameMapper.documentFields (numbered (.text "x")) with
  | ok part => exact ⟨part, rfl⟩
  | error e => simp [hname, Except.isOk, Except.toBool] at hok

/-- A record that ends is replaced by one that is open: its end leaves the fourth partition. A
record that the second of two mappers rejects leaves the earlier version where it is found. -/
theorem insert_replaces_open :
    ∃ m schema ended current fields fields', BitemporalMapper.standard "name" = .ok m ∧
      Schema.ofMappers [.bitemporal m] = .ok schema ∧
      (empty schema 1).insert "a" (BitemporalMapper.recordOf
        (Ends.millis ⟨.earliest, ⟨20, by decide⟩, .earliest, ⟨30, by decide⟩⟩)) =
          (.ok fields, ended) ∧
      (ended.store.index (Partition.t4.fieldName "name" .validTo)).entriesOf "a" = [(20, "a")] ∧
      ended.insert "a" (BitemporalMapper.recordOf
        (Ends.millis ⟨.earliest, .now, .earliest, .now⟩)) = (.ok fields', current) ∧
      current.get? "a" = some fields' ∧
      (current.store.index (Partition.t4.fieldName "name" .validTo)).entriesOf "a" = [] ∧
      (current.store.index (Partition.flagName "name")).entriesOf "a" = [(1, "a")] ∧
      ∃ kept, Schema.ofMappers twoMappers = .ok twoMapperSchema ∧
        (empty twoMapperSchema 1).apply (.insert "a" (numbered (.int 1))) = kept ∧
        kept.insert "a" (numbered (.text "x")) =
          (.error (.input (.notInteger "n" "n" (.text "x"))), kept) ∧
        ((kept.run [.insert "a" (numbered (.text "x"))]).search
          (.range ⟨"n", none, some 1, none, true, true⟩) [] none).toOption.map (·.map Hit.id) =
            some ["a"] := by
  obtain ⟨m, schema, hm, hschema, -, hdocuments⟩ := Schema.exists_standard "name" (by decide)
  obtain ⟨fields, hfields, hstored⟩ :=
    hdocuments ⟨.earliest, ⟨20, by decide⟩, .earliest, ⟨30, by decide⟩⟩ ⟨by decide, by decide⟩
  obtain ⟨fields', hfields', hstored'⟩ :=
    hdocuments ⟨.earliest, .now, .earliest, .now⟩ ⟨by decide, by decide⟩
  have hempty : (empty schema 1).Reachable := reachable_run hschema 1 []
  let ended : Index := { empty schema 1 with store := (empty schema 1).store.put "a" fields }
  have hended : (empty schema 1).insert "a" _ = (.ok fields, ended) :=
    insert_ok.mpr ⟨hfields, rfl⟩
  have hcurrent : ended.insert "a" _ = (.ok fields', _) := insert_ok.mpr ⟨hfields', rfl⟩
  obtain ⟨-, -, hfirst⟩ := insert_replaces hempty "a" _
  obtain ⟨-, -, -, hentries⟩ := hfirst _ _ hended
  have hreachable : ended.Reachable := apply_insert hended ▸ hempty.apply _
  obtain ⟨-, -, hsecond⟩ := insert_replaces hreachable "a" _
  obtain ⟨-, hget, -, hentries'⟩ := hsecond _ _ hcurrent
  have hmappers : Schema.ofMappers twoMappers = .ok twoMapperSchema := rfl
  obtain ⟨kept, hkept⟩ :
      ∃ kept, (empty twoMapperSchema 1).apply (.insert "a" (numbered (.int 1))) = kept := ⟨_, rfl⟩
  have hreachable' : kept.Reachable := hkept ▸ reachable_run hmappers 1 [.insert "a" _]
  obtain ⟨hrejects, hunchanged, -⟩ := insert_replaces hreachable' "a" (numbered (.text "x"))
  have hvalues : kept.schema.mappers.values = [nameMapper, numberMapper] := by
    rw [← hkept, (apply_keeps _ (DocumentStore.consistent_run [])).1]
    rfl
  obtain ⟨hname, hnumber⟩ := rejects_text
  have hrejected : (kept.insert "a" (numbered (.text "x"))).1 =
      .error (.input (.notInteger "n" "n" (.text "x"))) := by
    refine (hrejects _).mpr ⟨[nameMapper], numberMapper, [], hvalues, fun a ha => ?_, hnumber⟩
    rwa [List.mem_singleton.mp ha]
  have hinsert : kept.insert "a" (numbered (.text "x")) = (_, kept) :=
    insert_error.mpr ⟨(insert_fst ..).symm.trans hrejected, rfl⟩
  obtain ⟨-, hlater⟩ := hunchanged _ _ hinsert
  refine ⟨m, schema, _, _, _, _, hm, hschema, hended, ?_, hcurrent, hget, ?_, ?_, kept, hmappers,
    hkept, hinsert, ?_⟩
  · rw [(hentries _).1, hstored.axis]
    rfl
  · rw [(hentries' _).1, hstored'.axis]
    rfl
  · rw [(hentries' _).1, hstored'.flag]
    rfl
  · rw [hlater [], ← hkept]
    decide +kernel

end Index

end Bitemporal
