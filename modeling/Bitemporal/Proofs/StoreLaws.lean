import Bitemporal.DocumentStore
import Bitemporal.Proofs.FieldIndexLaws
import Bitemporal.Proofs.MapLaws

/-!
# Stores keep their indexes in step with their documents

A store is consistent when each of its indexes is ordered and holds, for each document, the value
that the document has for the field. The empty store is consistent, and `put` and `delete` keep
stores consistent. In a consistent store a predicate finds the documents that it passes, each
once: leaves read a range of an index, and nodes meet and join what their clauses find.
-/

namespace Bitemporal.DocumentStore

variable {s : DocumentStore} {id other field : String} {doc : Fields}

structure Consistent (s : DocumentStore) : Prop where
  ordered : ∀ field, (s.index field).Ordered
  value : ∀ id field, s.value? id field = (s.get? id).bind fun doc => doc.get? field

theorem consistent_empty : Consistent ∅ :=
  ⟨fun _ => FieldIndex.ordered_empty, fun _ _ => rfl⟩

-- ---------------------------------------------------------------------------
-- Documents and indexes after a change
-- ---------------------------------------------------------------------------

theorem delete_absent (h : s.get? id = none) : s.delete id = s := by
  unfold delete
  rw [show s.documents.get? id = none from h]

theorem delete_present (h : s.get? id = some doc) :
    s.delete id = ⟨s.documents.erase id, unindex s.indexes id doc.keys⟩ := by
  unfold delete
  rw [show s.documents.get? id = some doc from h]

theorem get?_delete (s : DocumentStore) (id other : String) :
    (s.delete id).get? other = if other = id then none else s.get? other := by
  cases h : s.get? id with
  | none =>
    rw [delete_absent h]
    split <;> simp_all
  | some doc =>
    rw [delete_present h]
    exact OrderedMap.get?_erase s.documents id other

theorem get?_put (s : DocumentStore) (id other : String) (doc : Fields) :
    (s.put id doc).get? other = if other = id then some doc else s.get? other := by
  have hinsert : (s.put id doc).get? other =
      if other = id then some doc else (s.delete id).get? other :=
    OrderedMap.get?_insert _ id other doc
  rw [hinsert, get?_delete]
  split <;> rfl

abbrev indexIn (indexes : OrderedMap FieldIndex) (field : String) : FieldIndex :=
  (indexes.get? field).getD ∅

theorem indexIn_unindex {fields : List String} (h : fields.Nodup)
    (indexes : OrderedMap FieldIndex) :
    indexIn (unindex indexes id fields) field =
      if field ∈ fields then (indexIn indexes field).remove id else indexIn indexes field := by
  induction fields generalizing indexes with
  | nil => simp [unindex]
  | cons f rest ih =>
    obtain ⟨hf, hrest⟩ := List.nodup_cons.mp h
    have hstep : unindex indexes id (f :: rest) =
        unindex (indexes.insert f ((indexIn indexes f).remove id)) id rest := rfl
    rw [hstep, ih hrest]
    by_cases hfield : field = f
    · subst hfield
      simp [indexIn, hf]
    · simp [indexIn, hfield]

theorem indexIn_addToIndexes {entries : List (String × Int)}
    (h : (entries.map Prod.fst).Nodup) (indexes : OrderedMap FieldIndex) :
    indexIn (addToIndexes indexes id entries) field =
      match OrderedMap.find? field entries with
      | some v => (indexIn indexes field).add id v
      | none => indexIn indexes field := by
  induction entries generalizing indexes with
  | nil => simp [addToIndexes, OrderedMap.find?]
  | cons entry rest ih =>
    obtain ⟨f, v⟩ := entry
    obtain ⟨hf, hrest⟩ := List.nodup_cons.mp h
    have hstep : addToIndexes indexes id ((f, v) :: rest) =
        addToIndexes (indexes.insert f ((indexIn indexes f).add id v)) id rest := rfl
    rw [hstep, ih hrest]
    by_cases hfield : f = field
    · subst hfield
      simp [indexIn, OrderedMap.find?, OrderedMap.find?_eq_none hf]
    · simp [indexIn, OrderedMap.find?, hfield, Ne.symm hfield]

theorem index_delete (h : s.get? id = some doc) :
    (s.delete id).index field =
      if field ∈ doc.keys then (s.index field).remove id else s.index field := by
  rw [delete_present h]
  exact indexIn_unindex doc.distinct s.indexes

theorem index_put (s : DocumentStore) (id field : String) (doc : Fields) :
    (s.put id doc).index field =
      match doc.get? field with
      | some v => ((s.delete id).index field).add id v
      | none => (s.delete id).index field :=
  indexIn_addToIndexes doc.distinct (s.delete id).indexes

-- ---------------------------------------------------------------------------
-- Consistency
-- ---------------------------------------------------------------------------

theorem Consistent.delete (h : s.Consistent) (id : String) : (s.delete id).Consistent := by
  cases hdoc : s.get? id with
  | none => rwa [delete_absent hdoc]
  | some doc =>
    constructor
    · intro field
      rw [index_delete hdoc]
      split
      · exact (h.ordered field).remove id
      · exact h.ordered field
    · intro other field
      rw [value?, index_delete hdoc, get?_delete]
      have hvalue := h.value other field
      rw [value?] at hvalue
      split
      · rw [(h.ordered field).value?_remove]
        split
        · rfl
        · exact hvalue
      · rename_i hfield
        rw [hvalue]
        split
        · -- The document has no value here, so no index entry had to go.
          subst other
          rw [hdoc, Option.bind_some, Option.bind_none, ← Option.not_isSome_iff_eq_none]
          exact fun hsome => hfield (OrderedMap.mem_keys_iff.mpr hsome)
        · rfl

theorem Consistent.put (h : s.Consistent) (id : String) (doc : Fields) :
    (s.put id doc).Consistent := by
  have hd := h.delete id
  constructor
  · intro field
    rw [index_put]
    split
    · exact (hd.ordered field).add id _
    · exact hd.ordered field
  · intro other field
    have hvalue := hd.value other field
    rw [value?, get?_delete] at hvalue
    rw [value?, index_put, get?_put]
    split <;> rename_i hfield
    · rw [(hd.ordered field).value?_add, hvalue]
      split <;> simp_all
    · rw [hvalue]
      split <;> simp_all

-- ---------------------------------------------------------------------------
-- Candidates
-- ---------------------------------------------------------------------------

/-- Identifiers of exactly the documents that pass a test, each once. -/
structure Finds (s : DocumentStore) (test : Fields → Bool) (ids : List String) : Prop where
  nodup : ids.Nodup
  mem_iff : ∀ id, id ∈ ids ↔ (s.get? id).any test = true

theorem Finds.intersection {test rest : Fields → Bool} {ids others : List String}
    (h : s.Finds test ids) (hr : s.Finds rest others) :
    s.Finds (fun doc => test doc && rest doc) (intersection ids others) := by
  refine ⟨h.nodup.filter _, fun id => ?_⟩
  simp only [DocumentStore.intersection, List.mem_filter, List.contains_iff_mem, h.mem_iff,
    hr.mem_iff]
  cases s.get? id <;> simp

theorem Finds.union {test rest : Fields → Bool} {ids others : List String}
    (h : s.Finds test ids) (hr : s.Finds rest others) :
    s.Finds (fun doc => test doc || rest doc) (union ids others) := by
  refine ⟨List.nodup_append.mpr ⟨h.nodup, hr.nodup.filter _, ?_⟩, fun id => ?_⟩
  · rintro a ha b hb rfl
    simp [ha] at hb
  · simp only [DocumentStore.union, List.mem_append, List.mem_filter, Bool.not_eq_true',
      List.contains_eq_mem, decide_eq_false_iff_not, h.mem_iff, hr.mem_iff]
    cases s.get? id with
    | none => simp
    | some doc => cases htest : test doc <;> simp [htest]

theorem Consistent.finds_range (h : s.Consistent) (field : String) (w : Window) :
    s.Finds (fun doc => (doc.get? field).any w.admits)
      ((s.index field).range w.lower w.upper w.includeLower w.includeUpper) := by
  refine ⟨(h.ordered field).nodup_range w, fun id => ?_⟩
  rw [(h.ordered field).mem_range_iff w]
  have hvalue := h.value id field
  rw [value?] at hvalue
  rw [hvalue]
  cases s.get? id <;> simp

/-- Both ends of the window at one value. -/
theorem admits_point (value n : Int) :
    (Window.mk value value true true).admits n = (n == value) := by
  rw [Bool.eq_iff_iff, Window.admits_iff, beq_iff_eq]
  simp only [and_true]
  omega

theorem Consistent.finds_exact (h : s.Consistent) (field : String) (value : Int) :
    s.Finds (fun doc => doc.get? field == some value) ((s.index field).exact value) := by
  have hrange := h.finds_range field ⟨value, value, true, true⟩
  have htest : (fun doc : Fields => (doc.get? field).any (Window.mk value value true true).admits) =
      fun doc => doc.get? field == some value := by
    funext doc
    cases doc.get? field <;> simp [admits_point]
  rwa [htest] at hrange

section

variable {β : Type}

/-- Without clauses of a part there is nothing that could fail. -/
theorem allMatch_of_none {clauses : List (Occur × Predicate β)}
    (h : (clauses.any fun clause => clause.1 = .must) = false) (doc : Fields) :
    Predicate.allMatch doc .must clauses = true := by
  rw [Predicate.allMatch_eq, Predicate.clausesOf,
    List.filter_eq_nil_iff.mpr (by simpa using h)]
  rfl

mutual

/-- A predicate finds the documents that it passes. -/
theorem Consistent.finds_candidates (h : s.Consistent) : (p : Predicate β) →
    s.Finds (fun doc => p.isMatch doc) (s.candidates p)
  | .range field w _ => by
    simpa only [candidates, Predicate.isMatch] using h.finds_range field w
  | .exact field value _ => by
    simpa only [candidates, Predicate.isMatch] using h.finds_exact field value
  | .boolean clauses _ => by
    have hall := h.inAll_finds clauses
    cases hany : clauses.any fun clause => clause.1 = .must with
    | true =>
      cases hids : s.inAll clauses with
      | none => simp [hids, hany] at hall
      | some ids =>
        simp only [hids] at hall
        simpa only [candidates, Predicate.isMatch, hany, if_true, hids, Option.getD_some] using
          hall.2
    | false =>
      simpa only [candidates, Predicate.isMatch, hany, Bool.false_eq_true, if_false] using
        h.inAny_finds clauses

/-- Required clauses find the documents that pass them all, if there are any such clauses. -/
theorem Consistent.inAll_finds (h : s.Consistent) : (clauses : List (Occur × Predicate β)) →
    match s.inAll clauses with
    | none => (clauses.any fun clause => clause.1 = .must) = false
    | some ids => (clauses.any fun clause => clause.1 = .must) = true ∧
        s.Finds (fun doc => Predicate.allMatch doc .must clauses) ids
  | [] => rfl
  | (.should, p) :: rest => by
    simpa [inAll, Predicate.allMatch] using h.inAll_finds rest
  | (.must, p) :: rest => by
    have hp := h.finds_candidates p
    have hrest := h.inAll_finds rest
    cases hids : s.inAll rest with
    | none =>
      simp only [hids] at hrest
      simpa [inAll, hids, Predicate.allMatch, allMatch_of_none hrest] using hp
    | some ids =>
      simp only [hids] at hrest
      simpa [inAll, hids, Predicate.allMatch] using hp.intersection hrest.2

/-- Optional clauses find the documents that pass any of them. -/
theorem Consistent.inAny_finds (h : s.Consistent) : (clauses : List (Occur × Predicate β)) →
    s.Finds (fun doc => Predicate.anyMatch doc .should clauses) (s.inAny clauses)
  | [] => ⟨List.nodup_nil, fun id => by cases s.get? id <;> simp [inAny, Predicate.anyMatch]⟩
  | (.must, p) :: rest => by
    simpa [inAny, Predicate.anyMatch] using h.inAny_finds rest
  | (.should, p) :: rest => by
    simpa [inAny, Predicate.anyMatch] using (h.finds_candidates p).union (h.inAny_finds rest)

end

end

end Bitemporal.DocumentStore
