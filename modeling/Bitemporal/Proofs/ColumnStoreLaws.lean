import Bitemporal.DocumentStore.Columns
import Bitemporal.Proofs.ColumnLaws
import Bitemporal.Proofs.DraftLaws
import Bitemporal.Proofs.StoreRuns

/-!
# Stores in columns answer as stores of indexes

Columns that lay out the indexes of a consistent store lay out what the store becomes by each
change. Every field of a document has an index, so nothing that is looked up is missing. What has
been found does not depend on the end at which the clauses of a node are started, nor on whether a
search goes on after nothing is left. So predicates find the same documents, with the same scores
and in the same order.
-/

namespace Bitemporal

-- ---------------------------------------------------------------------------
-- Meeting and joining in sequence
-- ---------------------------------------------------------------------------

namespace DocumentStore

variable {s : DocumentStore} {id field : String} {doc : Fields}

theorem intersection_assoc (a b c : List String) :
    intersection (intersection a b) c = intersection a (intersection b c) := by
  simp only [intersection, List.filter_filter]
  refine List.filter_congr fun id _ => ?_
  simp [Bool.and_comm]

theorem nil_union (a : List String) : union [] a = a := by simp [union]

theorem union_nil (a : List String) : union a [] = a := by simp [union]

theorem union_assoc (a b c : List String) : union (union a b) c = union a (union b c) := by
  simp only [union, List.append_assoc, List.filter_append, List.filter_filter]
  congr 2
  refine List.filter_congr fun id _ => ?_
  by_cases ha : id ∈ a <;> simp [ha]

/-- Every field of a document has an index. -/
theorem Consistent.exists_index (h : s.Consistent) (hdoc : s.get? id = some doc)
    (hfield : field ∈ doc.keys) : ∃ ix, s.indexes.get? field = some ix := by
  refine Option.ne_none_iff_exists'.mp fun hnone => ?_
  have hvalue := h.value id field
  rw [hdoc, Option.bind_some, value?, index, hnone] at hvalue
  have hnovalue : doc.get? field = none := hvalue.symm
  rw [OrderedMap.mem_keys_iff, hnovalue] at hfield
  cases hfield

end DocumentStore

namespace ColumnStore

open DocumentStore (intersection union Change)

variable {c : ColumnStore} {s : DocumentStore}

-- ---------------------------------------------------------------------------
-- Columns that lay out the indexes of a store
-- ---------------------------------------------------------------------------

def LaysOutIndexes (columns : OrderedMap FieldColumns) (indexes : OrderedMap FieldIndex) : Prop :=
  ∀ field, Option.Rel (fun c ix => c.LaysOut ix ∧ ix.Ordered) (columns.get? field)
    (indexes.get? field)

structure LaysOut (c : ColumnStore) (s : DocumentStore) : Prop where
  documents : c.documents = s.documents
  columns : LaysOutIndexes c.columns s.indexes

theorem laysOut_empty : LaysOut ∅ ∅ := ⟨rfl, fun _ => .none⟩

section

variable {columns : OrderedMap FieldColumns} {indexes : OrderedMap FieldIndex} {c : FieldColumns}
  {ix : FieldIndex}

theorem LaysOutIndexes.insert (h : LaysOutIndexes columns indexes) (hc : c.LaysOut ix)
    (ho : ix.Ordered) (field : String) :
    LaysOutIndexes (columns.insert field c) (indexes.insert field ix) := fun other => by
  rw [OrderedMap.get?_insert, OrderedMap.get?_insert]
  split
  · exact .some ⟨hc, ho⟩
  · exact h other

/-- A field without columns is laid out as one with empty columns. -/
theorem LaysOutIndexes.getD (h : LaysOutIndexes columns indexes) (field : String) :
    ((columns.get? field).getD ∅).LaysOut ((indexes.get? field).getD ∅) ∧
      ((indexes.get? field).getD ∅).Ordered := by
  have hfield := h field
  generalize columns.get? field = c, indexes.get? field = ix at hfield
  cases hfield with
  | some hc => exact hc
  | none => exact ⟨FieldColumns.laysOut_empty, FieldIndex.ordered_empty⟩

/-- An index that is there is laid out. -/
theorem LaysOutIndexes.exists_columns (h : LaysOutIndexes columns indexes) {field : String}
    (hix : indexes.get? field = some ix) :
    ∃ c, columns.get? field = some c ∧ c.LaysOut ix ∧ ix.Ordered := by
  have hfield := h field
  rw [hix] at hfield
  generalize columns.get? field = found at hfield
  cases hfield with
  | some hc => exact ⟨_, rfl, hc⟩

theorem LaysOutIndexes.unindex (h : LaysOutIndexes columns indexes) (id : String)
    {fields : List String} (hfields : ∀ field ∈ fields, ∃ ix, indexes.get? field = some ix) :
    ∃ after, ColumnStore.unindex columns id fields = .ok after ∧
      LaysOutIndexes after (DocumentStore.unindex indexes id fields) := by
  induction fields generalizing columns indexes with
  | nil => exact ⟨columns, rfl, h⟩
  | cons field rest ih =>
    obtain ⟨⟨ix, hix⟩, hrest⟩ := List.forall_mem_cons.mp hfields
    obtain ⟨c, hcolumns, hc, ho⟩ := h.exists_columns hix
    have hstep := h.insert (hc.remove ho id) (ho.remove id) field
    -- Taking the document out of one index leaves the other indexes where they are.
    obtain ⟨after, hafter, hlays⟩ := ih hstep fun other hother => by
      obtain ⟨ix', hix'⟩ := hrest other hother
      rw [OrderedMap.get?_insert]
      split
      · exact ⟨_, rfl⟩
      · exact ⟨ix', hix'⟩
    refine ⟨after, ?_, ?_⟩
    · rwa [ColumnStore.unindex, hcolumns]
    · rwa [DocumentStore.unindex, List.foldl_cons, hix, Option.getD_some]

theorem LaysOutIndexes.addToColumns (h : LaysOutIndexes columns indexes) (id : String)
    (fields : List (String × Int)) :
    LaysOutIndexes (ColumnStore.addToColumns columns id fields)
      (DocumentStore.addToIndexes indexes id fields) := by
  induction fields generalizing columns indexes with
  | nil => exact h
  | cons entry rest ih =>
    obtain ⟨hc, ho⟩ := h.getD entry.1
    exact ih (h.insert (hc.add ho id entry.2) (ho.add id entry.2) entry.1)

end

-- ---------------------------------------------------------------------------
-- Changes
-- ---------------------------------------------------------------------------

theorem LaysOut.delete (h : c.LaysOut s) (hs : s.Consistent) (id : String) :
    ∃ after, c.delete id = .ok after ∧ after.LaysOut (s.delete id) := by
  cases hdoc : s.get? id with
  | none =>
    refine ⟨c, ?_, (DocumentStore.delete_absent hdoc).symm ▸ h⟩
    rw [ColumnStore.delete, h.documents, show s.documents.get? id = none from hdoc]
  | some doc =>
    obtain ⟨columns, hcolumns, hlays⟩ := h.columns.unindex id fun field => hs.exists_index hdoc
    refine ⟨⟨s.documents.erase id, columns⟩, ?_, ?_⟩
    · rw [ColumnStore.delete, h.documents, show s.documents.get? id = some doc from hdoc]
      simp only [hcolumns, Except.map]
    · rw [DocumentStore.delete_present hdoc]
      exact ⟨rfl, hlays⟩

theorem LaysOut.put (h : c.LaysOut s) (hs : s.Consistent) (id : String) (doc : Fields) :
    ∃ after, c.put id doc = .ok after ∧ after.LaysOut (s.put id doc) := by
  obtain ⟨rest, hrest, hlays⟩ := h.delete hs id
  refine ⟨_, by rw [ColumnStore.put, hrest]; rfl, ?_, ?_⟩
  · exact congrArg (fun documents => documents.insert id doc) hlays.documents
  · exact hlays.columns.addToColumns id doc.entries

def apply (c : ColumnStore) : Change → Except Error ColumnStore
  | .put id fields => c.put id fields
  | .delete id => c.delete id

def run (changes : List Change) : Except Error ColumnStore := changes.foldlM apply ∅

theorem LaysOut.apply (h : c.LaysOut s) (hs : s.Consistent) (change : Change) :
    ∃ after, c.apply change = .ok after ∧ after.LaysOut (s.apply change) := by
  cases change with
  | put id doc => exact h.put hs id doc
  | delete id => exact h.delete hs id

theorem LaysOut.foldlM_apply (changes : List Change) (h : c.LaysOut s) (hs : s.Consistent) :
    ∃ after, changes.foldlM ColumnStore.apply c = .ok after ∧
      after.LaysOut (changes.foldl DocumentStore.apply s) := by
  induction changes generalizing c s with
  | nil => exact ⟨c, rfl, h⟩
  | cons change rest ih =>
    obtain ⟨next, hnext, hlays⟩ := h.apply hs change
    obtain ⟨after, hafter, hrest⟩ := ih hlays (hs.apply change)
    refine ⟨after, ?_, hrest⟩
    rw [List.foldlM_cons, hnext]
    exact hafter

-- ---------------------------------------------------------------------------
-- Reading
-- ---------------------------------------------------------------------------

theorem LaysOut.get? (h : c.LaysOut s) (id : String) : c.get? id = s.get? id := by
  rw [ColumnStore.get?, DocumentStore.get?, h.documents]

theorem LaysOut.value? (h : c.LaysOut s) (id field : String) :
    c.value? id field = s.value? id field := by
  have hfield := h.columns field
  rw [ColumnStore.value?, DocumentStore.value?, DocumentStore.index]
  generalize c.columns.get? field = columns, s.indexes.get? field = ix at hfield
  cases hfield with
  | some hc => exact hc.1.byId id
  | none => rfl

theorem LaysOut.range (h : c.LaysOut s) (field : String) (lower upper : Int)
    (includeLower includeUpper : Bool) :
    ((c.columns.get? field).map fun columns =>
        columns.range lower upper includeLower includeUpper).getD [] =
      (s.index field).range lower upper includeLower includeUpper := by
  have hfield := h.columns field
  rw [DocumentStore.index]
  generalize c.columns.get? field = columns, s.indexes.get? field = ix at hfield
  cases hfield with
  | some hc => exact hc.1.range hc.2 lower upper includeLower includeUpper
  | none => rfl

section

variable {β : Type}

mutual

/-- What is a predicate finds what the store of indexes finds for it. -/
theorem LaysOut.candidates (h : c.LaysOut s) : (d : Draft β) → {p : Predicate β} →
    d.predicate? = some p → c.candidates d = .ok (s.candidates p)
  | .range field w _, _, rfl =>
    congrArg Except.ok (h.range field w.lower w.upper w.includeLower w.includeUpper)
  | .exact field value _, _, rfl => congrArg Except.ok (h.range field value value true true)
  | .boolean clauses _, p, hp => by
    obtain ⟨ps, hps, rfl⟩ := Draft.predicate?_boolean.mp hp
    rw [ColumnStore.candidates, DocumentStore.candidates, Draft.hasMust_eq hps]
    split
    · exact h.inAll clauses hps none
    · rw [h.inAny clauses hps [], DocumentStore.nil_union]

/-- What required clauses leave of what was found before them. -/
theorem LaysOut.inAll (h : c.LaysOut s) : (clauses : List (Occur × Draft β)) →
    {ps : List (Occur × Predicate β)} → Draft.clauses? clauses = some ps →
      (found : Option (List String)) → c.inAll found clauses =
        .ok (match found, s.inAll ps with
          | none, ids => ids.getD []
          | some found, none => found
          | some found, some ids => intersection found ids)
  | [], _, rfl, found => by cases found <;> rfl
  | (.should, d) :: clauses, ps, hps, found => by
    obtain ⟨p, rest, -, hrest, rfl⟩ := Draft.clauses?_cons.mp hps
    exact h.inAll clauses hrest found
  | (.must, d) :: clauses, ps, hps, found => by
    obtain ⟨p, rest, hp, hrest, rfl⟩ := Draft.clauses?_cons.mp hps
    have hgoes ids := h.inAll clauses hrest (some ids)
    rw [DocumentStore.inAll]
    match found with
    | some [] =>
      -- Nothing is left, and the clauses that are not looked at could not bring anything back.
      rw [ColumnStore.inAll]
      cases s.inAll rest <;> rfl
    | none =>
      simp only [ColumnStore.inAll, h.candidates d hp, Option.map_none, Option.getD_none, hgoes]
      cases s.inAll rest <;> rfl
    | some (id :: ids) =>
      simp only [ColumnStore.inAll, h.candidates d hp, Option.map_some, Option.getD_some, hgoes]
      cases s.inAll rest with
      | none => rfl
      | some others => exact congrArg Except.ok (DocumentStore.intersection_assoc ..)

/-- What optional clauses add to what was found before them. -/
theorem LaysOut.inAny (h : c.LaysOut s) : (clauses : List (Occur × Draft β)) →
    {ps : List (Occur × Predicate β)} → Draft.clauses? clauses = some ps →
      (found : List String) → c.inAny found clauses = .ok (union found (s.inAny ps))
  | [], _, rfl, found => congrArg Except.ok (DocumentStore.union_nil found).symm
  | (.must, d) :: clauses, ps, hps, found => by
    obtain ⟨p, rest, -, hrest, rfl⟩ := Draft.clauses?_cons.mp hps
    exact h.inAny clauses hrest found
  | (.should, d) :: clauses, ps, hps, found => by
    obtain ⟨p, rest, hp, hrest, rfl⟩ := Draft.clauses?_cons.mp hps
    rw [ColumnStore.inAny, h.candidates d hp, DocumentStore.inAny, ← DocumentStore.union_assoc]
    exact h.inAny clauses hrest _

end

end

variable {d : Draft Binary64} {p : Predicate Binary64}

/-- Every document that is found can be scored. -/
theorem LaysOut.mapM_hit? (h : c.LaysOut s) (hd : d.predicate? = some p) {ids : List String}
    (hids : ∀ id ∈ ids, ∃ doc, s.get? id = some doc) :
    ids.mapM (c.hit? d) = .ok (ids.map fun id => do
      let score ← p.score? (← s.get? id)
      return ⟨id, score⟩) := by
  induction ids with
  | nil => rfl
  | cons id rest ih =>
    obtain ⟨⟨doc, hdoc⟩, hrest⟩ := List.forall_mem_cons.mp hids
    have hhit : c.hit? d id = .ok (do
        let score ← p.score? (← s.get? id)
        return ⟨id, score⟩) := by
      rw [hit?, h.documents, show s.documents.get? id = some doc from hdoc, hdoc]
      simp only [Draft.score?_eq d hd, Except.map, Option.map_eq_bind]
      rfl
    rw [List.mapM_cons, hhit, ih hrest]
    rfl

/-- What is a predicate gives the hits that the store of indexes gives for it. -/
theorem LaysOut.search (h : c.LaysOut s) (hs : s.Consistent) (hd : d.predicate? = some p) :
    c.search d = .ok (s.search p) := by
  have hids : ∀ id ∈ s.candidates p, ∃ doc, s.get? id = some doc := fun id hid => by
    obtain ⟨doc, _, hdoc, -⟩ := DocumentStore.hit_of_candidate hs hid
    exact ⟨doc, hdoc⟩
  have hhits : c.search d = ((s.candidates p).mapM (c.hit? d)).map fun hits =>
      (hits.filterMap id).mergeSort DocumentStore.Hit.le := by
    rw [ColumnStore.search, h.candidates d hd]
    rfl
  rw [hhits, h.mapM_hit? hd hids, DocumentStore.search, Except.map, List.filterMap_map]
  rfl

/-- A store in columns that starts empty takes up every change. It is then in step with the store of
indexes that went through the same changes: it holds the same documents and values, and answers what
is a predicate in the same way. -/
theorem run_answers (changes : List Change) :
    ∃ c, run changes = .ok c ∧ c.LaysOut (DocumentStore.run changes) ∧
      (∀ id, c.get? id = DocumentStore.current changes id) ∧
      (∀ id field, c.value? id field = (c.get? id).bind fun doc => doc.get? field) ∧
      ∀ (d : Draft Binary64) (p : Predicate Binary64), d.predicate? = some p →
        c.candidates d = .ok ((DocumentStore.run changes).candidates p) ∧
        c.search d = .ok ((DocumentStore.run changes).search p) := by
  obtain ⟨c, hrun, h⟩ := laysOut_empty.foldlM_apply changes DocumentStore.consistent_empty
  have hs := DocumentStore.consistent_run changes
  refine ⟨c, hrun, h, fun id => ?_, fun id field => ?_, fun d p hd => ?_⟩
  · rw [h.get?]
    exact congrFun (DocumentStore.get?_run changes) id
  · rw [h.value?, h.get?]
    exact hs.value id field
  · exact ⟨h.candidates d hd, h.search hs hd⟩

end ColumnStore

end Bitemporal
