import Bitemporal.Index
import Bitemporal.Proofs.ConditionLaws
import Bitemporal.Proofs.SchemaLaws
import Bitemporal.Proofs.StandardMapper
import Bitemporal.Proofs.StoreRuns

/-!
# Searching an index agrees with testing its records

An index takes records in and out. Its documents are always what its schema makes of the records
that were accepted last and not taken out. So a bitemporal condition finds the records whose own
millisecond counts lie in the window of the condition as `Ends.Finds` says, after every run.
-/

namespace Bitemporal

open BitemporalMapper (StoresNothing Forward)

namespace Index

variable {x : Index} {schema : Schema} {record : Record} {doc : Fields}

-- ---------------------------------------------------------------------------
-- Runs
-- ---------------------------------------------------------------------------

inductive Operation where
  | insert (id : String) (record : Record)
  | delete (id : String)

/-- The index after one more operation. -/
def apply (x : Index) : Operation → Index
  | .insert id record => (x.insert id record).2
  | .delete id => x.delete id

def run (x : Index) (ops : List Operation) : Index := ops.foldl apply x

abbrev Records := String → Option Record

/-- The records after one more operation: the last word of the accepted ones counts. -/
def Operation.effect (schema : Schema) (records : Records) : Operation → Records
  | .insert id record =>
    match schema.documentFields record with
    | .ok _ => fun other => if other = id then some record else records other
    | .error _ => records
  | .delete id => fun other => if other = id then none else records other

/-- The records that are current after operations. -/
def current (schema : Schema) (ops : List Operation) : Records :=
  ops.foldl (Operation.effect schema) fun _ => none

/-- An index holds what its schema makes of records, and nothing else. -/
structure Holds (x : Index) (schema : Schema) (records : Records) : Prop where
  schema_eq : x.schema = schema
  consistent : x.store.Consistent
  absent : ∀ id, records id = none → x.store.get? id = none
  present : ∀ id record, records id = some record →
    ∃ doc, schema.documentFields record = .ok doc ∧ x.store.get? id = some doc

theorem holds_empty (schema : Schema) (boost : Binary64) :
    (empty schema boost).Holds schema fun _ => none :=
  ⟨rfl, DocumentStore.consistent_empty, fun _ _ => rfl, fun _ _ h => nomatch h⟩

theorem Holds.insert {records : Records} (h : x.Holds schema records) (id : String)
    (hdoc : schema.documentFields record = .ok doc) :
    Holds { x with store := x.store.put id doc } schema
      fun other => if other = id then some record else records other := by
  refine ⟨h.schema_eq, h.consistent.put id doc, fun other => ?_, fun other current => ?_⟩
  · rw [DocumentStore.get?_put]
    split
    · simp
    · exact h.absent other
  · rw [DocumentStore.get?_put]
    split
    · rintro ⟨⟩
      exact ⟨doc, hdoc, rfl⟩
    · exact h.present other current

theorem Holds.delete {records : Records} (h : x.Holds schema records) (id : String) :
    (x.delete id).Holds schema fun other => if other = id then none else records other := by
  refine ⟨h.schema_eq, h.consistent.delete id, fun other => ?_, fun other current => ?_⟩
  · rw [Index.delete, DocumentStore.get?_delete]
    split
    · simp
    · exact h.absent other
  · rw [Index.delete, DocumentStore.get?_delete]
    split
    · simp
    · exact h.present other current

theorem Holds.apply {records : Records} (h : x.Holds schema records) (op : Operation) :
    (x.apply op).Holds schema (op.effect schema records) := by
  cases op with
  | insert id record =>
    cases hdoc : schema.documentFields record with
    | ok doc => simpa only [Index.apply, Index.insert, Operation.effect, h.schema_eq, hdoc] using
        h.insert id hdoc
    | error e => simpa only [Index.apply, Index.insert, Operation.effect, h.schema_eq, hdoc] using h
  | delete id => exact h.delete id

theorem Holds.run {records : Records} (h : x.Holds schema records) (ops : List Operation) :
    (x.run ops).Holds schema (ops.foldl (Operation.effect schema) records) := by
  induction ops generalizing x records with
  | nil => exact h
  | cons op rest ih => exact ih (h.apply op)

theorem holds_run (schema : Schema) (boost : Binary64) (ops : List Operation) :
    ((empty schema boost).run ops).Holds schema (current schema ops) :=
  (holds_empty schema boost).run ops

-- ---------------------------------------------------------------------------
-- Searches
-- ---------------------------------------------------------------------------

theorem search_eq {c : Condition} {p : Predicate Binary64} (h : x.query c = .ok p) :
    x.search c [] none = .ok (x.store.search p) := by
  simp only [search, h]
  rfl

theorem query_bitemporal {c : BitemporalCondition} {m : BitemporalMapper} {r : Rectangle}
    (hm : x.schema.bitemporalMapper c.field = .ok m) (hr : c.rectangle m = .ok r) :
    x.query (.bitemporal c) =
      .ok (r.predicate m.field ((Condition.bitemporal c).effectiveBoost x.defaultBoost)) :=
  bind_ok.mpr ⟨m, hm, bind_ok.mpr ⟨r, hr, rfl⟩⟩

/-- The predicate of a window passes the documents of records that the window finds. -/
theorem isMatch_document {m : BitemporalMapper} {r : Rectangle} {w : Ends Nat} (boost : Binary64)
    (hs : schema.Keyed) (hm : schema.get? m.field = some (.bitemporal m))
    (hc : schema.Clear m.field) (hshows : m.Shows w r) (hr : Forward r)
    (hdoc : schema.documentFields record = .ok doc) :
    (r.predicate m.field boost).isMatch doc = true ↔
      ∃ ends : Ends Nat, (∀ axis, m.Reads (record.column (m.columns.get axis)) (ends.get axis)) ∧
        w.Finds m.now ends := by
  obtain ⟨part, hpart, hget⟩ := Schema.documentFields_of_field hs hm hc hdoc
  rcases BitemporalMapper.documentFields_ok.mp hpart with ⟨hnone, rfl⟩ | ⟨stored, hread, hf, rfl⟩
  · have habsent : StoresNothing m.field doc := fun name hname => hget name hname
    simp only [Rectangle.isMatch_predicate_absent boost habsent, Bool.false_eq_true, false_iff,
      not_exists, not_and]
    intro ends hreads
    obtain ⟨i, hi⟩ := (hreads .validFrom).readInstant
    rw [BitemporalMapper.store_none_iff.mp hnone .validFrom] at hi
    cases hi
  · have hstored := (BitemporalMapper.storedAs_stored m stored).congr hget
    obtain ⟨raw, hraw, hmillis⟩ := BitemporalMapper.readEnds_some_iff.mp hread
    rw [Rectangle.isMatch_predicate_forward boost hr hstored hf, hmillis,
      hshows.finds_iff fun axis => (hraw axis).2]
    constructor
    · intro hfinds
      exact ⟨raw, hraw, hfinds⟩
    · rintro ⟨ends, hreads, hfinds⟩
      have hends : raw = ends := Ends.ext_get fun axis => (hraw axis).unique (hreads axis)
      exact hends ▸ hfinds

/-- After a run, a condition finds each record once that is current and lies in its window. -/
theorem run_search_bitemporal {mappers : List Mapper} {c : BitemporalCondition}
    {m : BitemporalMapper} {r : Rectangle} (boost : Binary64)
    (hschema : Schema.ofMappers mappers = .ok schema)
    (hm : schema.bitemporalMapper c.field = .ok m) (hc : schema.Clear c.field)
    (hr : c.rectangle m = .ok r) :
    ∃ w, c.Reads m w ∧
      (w.validFrom ≤ w.validTo → w.transactionFrom ≤ w.transactionTo → ∀ ops, ∃ hits,
        ((empty schema boost).run ops).search (.bitemporal c) [] none = .ok hits ∧
        (hits.map Hit.id).Nodup ∧
        ∀ id, id ∈ hits.map Hit.id ↔ ∃ record, current schema ops id = some record ∧
          ∃ ends : Ends Nat,
            (∀ axis, m.Reads (record.column (m.columns.get axis)) (ends.get axis)) ∧
            w.Finds m.now ends) := by
  obtain ⟨w, hreads, hshows⟩ := BitemporalCondition.rectangle_ok hr
  refine ⟨w, hreads, fun hvalid htransaction ops => ?_⟩
  have hkeyed := Schema.keyed_ofMappers hschema
  have hget := Schema.bitemporalMapper_ok.mp hm
  have hfield : m.field = c.field := hkeyed _ _ hget
  rw [← hfield] at hget hc
  have h := holds_run schema boost ops
  have hforward := hshows.forward hvalid htransaction
  have hquery := query_bitemporal ((congrArg (·.bitemporalMapper c.field) h.schema_eq).trans hm) hr
  refine ⟨_, search_eq hquery, h.consistent.nodup_search _, fun id => ?_⟩
  rw [h.consistent.mem_map_id_search]
  cases hcurrent : current schema ops id with
  | none => simp [h.absent id hcurrent]
  | some record =>
    obtain ⟨doc, haccepted, hdoc⟩ := h.present id record hcurrent
    have hmatch := fun b => isMatch_document b hkeyed hget hc hshows hforward haccepted
    simp only [hdoc, Option.some.injEq, exists_eq_left', hmatch]

/-- A record from 0 to 20 is found from 10 on. -/
theorem run_search_bitemporal_standard :
    ∃ m schema hits, BitemporalMapper.standard "name" = .ok m ∧
      Schema.ofMappers [.bitemporal m] = .ok schema ∧
      ((empty schema 1).run [.insert "a" (BitemporalMapper.recordOf
        (Ends.millis ⟨.earliest, ⟨20, by decide⟩, .earliest, .now⟩))]).search
          (.bitemporal ⟨"name", none, ⟨some (.millis 10), none, none, none⟩⟩) [] none = .ok hits ∧
      "a" ∈ hits.map Hit.id := by
  obtain ⟨m, hm⟩ : ∃ m, BitemporalMapper.standard "name" = .ok m :=
    BitemporalMapper.exists_standard (by decide)
  have hfield := BitemporalMapper.standard_field hm
  have hnow := BitemporalMapper.standard_now hm
  let schema : Schema := ⟨(∅ : OrderedMap Mapper).insert m.field (.bitemporal m)⟩
  have hschema : Schema.ofMappers [.bitemporal m] = .ok schema := rfl
  have hget : schema.bitemporalMapper "name" = .ok m := by
    rw [Schema.bitemporalMapper_ok, Schema.get?, OrderedMap.get?_insert, if_pos hfield.symm]
  have hc : schema.Clear "name" := fun l hl => by cases List.mem_singleton.mp hl
  -- The condition gives the window from 10 on.
  let c : BitemporalCondition := ⟨"name", none, ⟨some (.millis 10), none, none, none⟩⟩
  have hten : m.Reads (.int 10) 10 := BitemporalMapper.reads_int (hnow ▸ by decide)
  obtain ⟨i, hi⟩ := hten.readInstant
  have hr : c.rectangle m = .ok ⟨i, .now, .earliest, .now⟩ :=
    Ends.forAll?_ok.mpr fun axis => by
      cases axis
      case validFrom => exact map_ok.mpr ⟨some i, hi, rfl⟩
      all_goals rfl
  obtain ⟨w, hwindow, hsearch⟩ := run_search_bitemporal 1 hschema hget hc hr
  have hw : w = ⟨10, m.now, 0, m.now⟩ := Ends.ext_get fun axis => by
    have haxis := hwindow axis
    cases axis
    case validFrom => exact BitemporalMapper.Reads.unique haxis hten
    all_goals exact haxis
  rw [hnow] at hw
  -- The schema makes a document of the record.
  let ends : Ends Instant := ⟨.earliest, ⟨20, by decide⟩, .earliest, .now⟩
  have hpart : m.documentFields (BitemporalMapper.recordOf ends.millis) =
      .ok (m.stored ends).fields :=
    BitemporalMapper.documentFields_ok.mpr (.inr
      ⟨ends, BitemporalMapper.readEnds_recordOf hm ends, ⟨by decide, by decide⟩, rfl⟩)
  have hdoc : schema.documentFields (BitemporalMapper.recordOf ends.millis) =
      .ok ((∅ : Fields).merge (m.stored ends).fields) :=
    Schema.collect_cons_ok.mpr ⟨_, hpart, rfl⟩
  obtain ⟨hits, hfound, -, hids⟩ := hsearch (by simp [hw, nowMillis]) (by simp [hw])
    [.insert "a" (BitemporalMapper.recordOf ends.millis)]
  refine ⟨m, schema, hits, hm, hschema, hfound, (hids "a").mpr ⟨_, ?_, ends.millis,
    BitemporalMapper.reads_recordOf hm ends, ?_⟩⟩
  · simp [current, Operation.effect, hdoc, ends]
  · rw [hw, hnow]
    decide

end Index

end Bitemporal
