import Bitemporal.Proofs.IndexRuns

/-!
# What range conditions find

A long mapper takes integers of any size, and a side of a range condition that is not set stands at
the end of the signed 64-bit numbers, where the inclusion flag of that side still counts. So a
search finds the records whose value the condition asks for, without those whose value lies past
such an end, or on it when the flag leaves it out.
-/

namespace Bitemporal

-- ---------------------------------------------------------------------------
-- Windows of range conditions
-- ---------------------------------------------------------------------------

namespace RangeCondition

variable {c : RangeCondition} {v : Int}

/-- A side that is not set excludes nothing. -/
def Asks (c : RangeCondition) (v : Int) : Prop :=
  (∀ lower, c.lower = some lower → lower < v ∨ (v = lower ∧ c.includeLower = true)) ∧
    (∀ upper, c.upper = some upper → v < upper ∨ (v = upper ∧ c.includeUpper = true))

/-- A side that is not set excludes a value nevertheless. -/
def Misses (c : RangeCondition) (v : Int) : Prop :=
  (c.lower = none ∧ (v < longMin ∨ (v = longMin ∧ c.includeLower = false))) ∨
    (c.upper = none ∧ (longMax < v ∨ (v = longMax ∧ c.includeUpper = false)))

theorem admits_window : c.window.admits v = true ↔ c.Asks v ∧ ¬ c.Misses v := by
  rw [Window.admits_iff]
  unfold window Asks Misses
  cases c.lower <;> cases c.upper <;> cases c.includeLower <;> cases c.includeUpper <;>
    simp <;> omega

end RangeCondition

-- ---------------------------------------------------------------------------
-- Documents of long mappers
-- ---------------------------------------------------------------------------

theorem Schema.get?_document_long {schema : Schema} {l : LongMapper} {record : Record}
    {doc : Fields} (hs : schema.Keyed) (hl : schema.get? l.field = some (.long l))
    (howns : schema.Owns l.field l.field) (h : schema.documentFields record = .ok doc) :
    l.readInteger (record.column l.column) = .ok (doc.get? l.field) := by
  obtain ⟨part, hpart, hget⟩ := documentFields_of_owned hs hl h
  obtain ⟨n, hn, hvalue⟩ := Mapper.get?_documentFields_long hpart
  rw [hget l.field howns, hvalue, if_pos rfl, hn]

def LongMapper.recordOf (l : LongMapper) (v : Int) : Record :=
  OrderedMap.ofList [(l.column, .int v)]

theorem LongMapper.readInteger_recordOf (l : LongMapper) (v : Int) :
    l.readInteger ((l.recordOf v).column l.column) = .ok (some v) := by
  have hcolumn : (l.recordOf v).column l.column = .int v := by
    rw [Record.column, recordOf, OrderedMap.get?_singleton, if_pos rfl, Option.getD_some]
  rw [hcolumn, readInteger]

theorem Schema.exists_long (l : LongMapper) :
    ∃ schema, ofMappers [.long l] = .ok schema ∧ schema.longMapper l.field = .ok l ∧
      schema.Owns l.field l.field ∧
      ∀ v, ∃ doc, schema.documentFields (l.recordOf v) = .ok doc := by
  refine ⟨⟨(∅ : OrderedMap Mapper).insert l.field (.long l)⟩, rfl, ?_, ?_, fun v => ?_⟩
  · rw [longMapper_ok, get?, OrderedMap.get?_insert, if_pos rfl]
  · intro m hm _
    obtain rfl := List.mem_singleton.mp hm
    rfl
  · have hpart : (Mapper.long l).documentFields (l.recordOf v) =
        .ok (OrderedMap.ofList [(l.field, v)]) := by
      rw [Mapper.documentFields, LongMapper.documentFields, l.readInteger_recordOf]
      rfl
    exact ⟨_, collect_cons_ok.mpr ⟨_, hpart, rfl⟩⟩

-- ---------------------------------------------------------------------------
-- Searches
-- ---------------------------------------------------------------------------

namespace Index

variable {x : Index} {schema : Schema} {records : Records} {l : LongMapper} {c : RangeCondition}

theorem query_range (hl : x.schema.longMapper c.field = .ok l) :
    x.query (.range c) =
      .ok (.range l.field c.window ((Condition.range c).effectiveBoost x.defaultBoost)) :=
  bind_ok.mpr ⟨l, hl, rfl⟩

theorem Holds.search_range (h : x.Holds schema records) (hs : schema.Keyed)
    (hl : schema.longMapper c.field = .ok l) (howns : schema.Owns c.field c.field) :
    ∃ hits, x.search (.range c) [] none = .ok hits ∧ (hits.map Hit.id).Nodup ∧
      ∀ id, id ∈ hits.map Hit.id ↔ ∃ record v, records id = some record ∧
        l.readInteger (record.column l.column) = .ok (some v) ∧ c.window.admits v = true := by
  have hget := Schema.longMapper_ok.mp hl
  have hfield : l.field = c.field := hs _ _ hget
  rw [← hfield] at hget howns
  have hmapper := (congrArg (·.longMapper c.field) h.schema_eq).trans hl
  refine ⟨_, search_eq (query_range hmapper), h.consistent.nodup_search _, fun id => ?_⟩
  rw [h.consistent.mem_map_id_search]
  cases hrecord : records id with
  | none => simp [h.absent id hrecord]
  | some record =>
    obtain ⟨doc, hdoc, hstored⟩ := h.present id record hrecord
    have hvalue := Schema.get?_document_long hs hget howns hdoc
    simp only [hstored, Option.some.injEq, exists_and_left, exists_eq_left', hvalue,
      Except.ok.injEq, Predicate.isMatch, Option.any_eq_true]

/-- After a run, a range condition finds each record once that is current and has a value that the
condition asks for and does not miss. -/
theorem run_search_range {mappers : List Mapper} (boost : Binary64)
    (hschema : Schema.ofMappers mappers = .ok schema) (hl : schema.longMapper c.field = .ok l)
    (howns : schema.Owns c.field c.field) (ops : List Operation) :
    ∃ hits, ((empty schema boost).run ops).search (.range c) [] none = .ok hits ∧
      (hits.map Hit.id).Nodup ∧
      ∀ id, id ∈ hits.map Hit.id ↔ ∃ record v, current schema ops id = some record ∧
        l.readInteger (record.column l.column) = .ok (some v) ∧ c.Asks v ∧ ¬ c.Misses v := by
  obtain ⟨hits, hsearch, hnodup, hids⟩ :=
    (holds_run schema boost ops).search_range (Schema.keyed_ofMappers hschema) hl howns
  refine ⟨hits, hsearch, hnodup, fun id => ?_⟩
  rw [hids id]
  simp only [RangeCondition.admits_window, current]

/-- The least signed 64-bit number is found where the lower side is not set. -/
theorem run_search_range_least :
    ∃ schema hits, Schema.ofMappers [.long ⟨"g", "g"⟩] = .ok schema ∧
      ((empty schema 1).run [.insert "least" (LongMapper.recordOf ⟨"g", "g"⟩
        RangeCondition.longMin)]).search
          (.range ⟨"g", none, none, some 0, true, false⟩) [] none = .ok hits ∧
      "least" ∈ hits.map Hit.id := by
  obtain ⟨schema, hschema, hl, howns, hdocuments⟩ := Schema.exists_long ⟨"g", "g"⟩
  let c : RangeCondition := ⟨"g", none, none, some 0, true, false⟩
  obtain ⟨hits, hsearch, -, hids⟩ := run_search_range (c := c) 1 hschema hl howns
    [.insert "least" (LongMapper.recordOf ⟨"g", "g"⟩ RangeCondition.longMin)]
  obtain ⟨doc, hdoc⟩ := hdocuments RangeCondition.longMin
  refine ⟨schema, hits, hschema, hsearch, (hids "least").mpr ⟨_, RangeCondition.longMin, ?_,
    LongMapper.readInteger_recordOf _ _, ?_⟩⟩
  · simp [current, Operation.effect, hdoc]
  · simp [c, RangeCondition.Asks, RangeCondition.Misses, RangeCondition.longMin]

-- ---------------------------------------------------------------------------
-- Values that are overlooked
-- ---------------------------------------------------------------------------

/-- A current record has a value that a condition asks for, and the condition does not find it. -/
def Overlooks (schema : Schema) (l : LongMapper) (ops : List Operation) (c : RangeCondition)
    (id : String) (v : Int) : Prop :=
  (∃ record, current schema ops id = some record ∧
    l.readInteger (record.column l.column) = .ok (some v)) ∧ c.Asks v ∧
  ∃ hits, ((empty schema 1).run ops).search (.range c) [] none = .ok hits ∧ id ∉ hits.map Hit.id

theorem overlooks_of_misses {mappers : List Mapper} {ops : List Operation} {id : String} {v : Int}
    {record : Record} (hschema : Schema.ofMappers mappers = .ok schema)
    (hl : schema.longMapper c.field = .ok l) (howns : schema.Owns c.field c.field)
    (hrecord : current schema ops id = some record)
    (hv : l.readInteger (record.column l.column) = .ok (some v)) (hasks : c.Asks v)
    (hmisses : c.Misses v) : Overlooks schema l ops c id v := by
  obtain ⟨hits, hsearch, -, hids⟩ :=
    (holds_run schema 1 ops).search_range (Schema.keyed_ofMappers hschema) hl howns
  refine ⟨⟨record, hrecord, hv⟩, hasks, hits, hsearch, fun hid => ?_⟩
  obtain ⟨other, w, hother, hw, hadmits⟩ := (hids id).mp hid
  obtain rfl := Option.some.inj (hrecord.symm.trans hother)
  obtain rfl := Option.some.inj (Except.ok.inj (hv.symm.trans hw))
  exact (RangeCondition.admits_window.mp hadmits).2 hmisses

/-- Conditions without bounds overlook the least signed 64-bit number when the lower side is
exclusive, and the number after the largest one in any case. -/
theorem range_overlooks_extremes :
    let l : LongMapper := ⟨"g", "g"⟩
    let ops : List Operation := [.insert "least" (l.recordOf RangeCondition.longMin),
      .insert "beyond" (l.recordOf (RangeCondition.longMax + 1))]
    LongMapper.make (some "g") none = .ok l ∧ ∃ schema, Schema.ofMappers [.long l] = .ok schema ∧
      schema.longMapper "g" = .ok l ∧ schema.Owns "g" "g" ∧
      Overlooks schema l ops ⟨"g", none, none, none, false, true⟩ "least" RangeCondition.longMin ∧
      Overlooks schema l ops ⟨"g", none, none, none, true, true⟩ "beyond"
        (RangeCondition.longMax + 1) := by
  intro l ops
  obtain ⟨schema, hschema, hl, howns, hdocuments⟩ := Schema.exists_long l
  obtain ⟨least, hleast⟩ := hdocuments RangeCondition.longMin
  obtain ⟨beyond, hbeyond⟩ := hdocuments (RangeCondition.longMax + 1)
  refine ⟨rfl, schema, hschema, hl, howns, ?_, ?_⟩
  · refine overlooks_of_misses hschema hl howns ?_ (l.readInteger_recordOf _) ?_ (.inl ?_)
    · simp [current, ops, Operation.effect, hleast, hbeyond]
    · simp [RangeCondition.Asks]
    · exact ⟨rfl, .inr ⟨rfl, rfl⟩⟩
  · refine overlooks_of_misses hschema hl howns ?_ (l.readInteger_recordOf _) ?_ (.inr ?_)
    · simp [current, ops, Operation.effect, hleast, hbeyond]
    · simp [RangeCondition.Asks]
    · exact ⟨rfl, .inl (Int.lt_succ _)⟩

end Index

end Bitemporal
