import Mathlib.Data.List.Nodup
import Bitemporal.Proofs.HitOrder
import Bitemporal.Proofs.StoreLaws

/-!
# Searching a store agrees with testing its documents

A store that is filled by `put` and `delete` in any order answers each predicate as if every
current document were tested and scored on its own. So the answer depends on the documents alone,
not on how they came to be stored.
-/

namespace Bitemporal

-- ---------------------------------------------------------------------------
-- Searching a consistent store
-- ---------------------------------------------------------------------------

abbrev Documents := String → Option Fields

/-- Equal values under equal names, whatever the order of the fields. -/
def Documents.Same (d e : Documents) : Prop :=
  ∀ id, (d id).map OrderedMap.get? = (e id).map OrderedMap.get?

/-- What is determined by the values of a document is the same for the same documents. -/
theorem Documents.Same.map_eq {α : Type} {d e : Documents} (h : d.Same e) {f : Fields → α}
    (hf : ∀ doc other : Fields, doc.get? = other.get? → f doc = f other) (id : String) :
    (d id).map f = (e id).map f := by
  have hid := h id
  cases hd : d id <;> cases he : e id <;> simp_all
  exact hf _ _ hid

namespace DocumentStore

variable {s t : DocumentStore} {p : Predicate Binary64}

theorem hit_of_candidate (h : s.Consistent) {id : String} (hid : id ∈ s.candidates p) :
    ∃ doc score, s.get? id = some doc ∧ p.score? doc = some score := by
  obtain ⟨doc, hdoc, hmatch⟩ := (Option.any_eq_true ..).mp
    (((h.finds_candidates p).mem_iff id).mp hid)
  rw [← Predicate.score?_isSome] at hmatch
  obtain ⟨score, hscore⟩ := Option.isSome_iff_exists.mp hmatch
  exact ⟨doc, score, hdoc, hscore⟩

theorem Consistent.mem_search_iff (h : s.Consistent) {hit : Hit} :
    hit ∈ s.search p ↔ ∃ doc, s.get? hit.id = some doc ∧ p.score? doc = some hit.score := by
  rw [search, List.mem_mergeSort, List.mem_filterMap]
  constructor
  · rintro ⟨id, _, hhit⟩
    simp only [bind, Option.bind_eq_some_iff, pure, Option.some.injEq] at hhit
    obtain ⟨doc, hdoc, score, hscore, rfl⟩ := hhit
    exact ⟨doc, hdoc, hscore⟩
  · rintro ⟨doc, hdoc, hscore⟩
    refine ⟨hit.id, ?_, by simp [hdoc, hscore]⟩
    rw [(h.finds_candidates p).mem_iff, hdoc, Option.any_some, ← Predicate.score?_isSome, hscore]
    rfl

/-- Every candidate gives one hit. -/
theorem Consistent.map_id_search (h : s.Consistent) (p : Predicate Binary64) :
    ((s.search p).map Hit.id).Perm (s.candidates p) := by
  refine ((List.mergeSort_perm _ _).map Hit.id).trans (List.Perm.of_eq ?_)
  rw [List.map_filterMap]
  have hself : ∀ id ∈ s.candidates p,
      ((do let score ← p.score? (← s.get? id); return (⟨id, score⟩ : Hit)).map Hit.id) = some id :=
    fun id hid => by
      obtain ⟨doc, score, hdoc, hscore⟩ := hit_of_candidate h hid
      simp [hdoc, hscore]
  rw [List.filterMap_congr hself, List.filterMap_some]

theorem Consistent.nodup_search (h : s.Consistent) (p : Predicate Binary64) :
    ((s.search p).map Hit.id).Nodup :=
  (h.map_id_search p).nodup_iff.mpr (h.finds_candidates p).nodup

theorem Consistent.mem_map_id_search (h : s.Consistent) (p : Predicate Binary64) (id : String) :
    id ∈ (s.search p).map Hit.id ↔ ∃ doc, s.get? id = some doc ∧ p.isMatch doc = true := by
  rw [(h.map_id_search p).mem_iff, (h.finds_candidates p).mem_iff, Option.any_eq_true]

/-- No document has the undefined number as its score. -/
def Scored (docs : Documents) (p : Predicate Binary64) : Prop :=
  ∀ id doc, docs id = some doc → p.score? doc ≠ some .nan

theorem Consistent.search_score (h : s.Consistent) (hn : Scored s.get? p) :
    ∀ hit ∈ s.search p, hit.score ≠ .nan := by
  intro hit hhit heq
  obtain ⟨doc, hdoc, hscore⟩ := h.mem_search_iff.mp hhit
  exact hn hit.id doc hdoc (heq ▸ hscore)

theorem Consistent.scored_of_search (h : s.Consistent)
    (hn : ∀ hit ∈ s.search p, hit.score ≠ .nan) : Scored s.get? p := fun id doc hdoc hscore =>
  hn ⟨id, .nan⟩ (h.mem_search_iff.mpr ⟨doc, hdoc, hscore⟩) rfl

theorem Consistent.search_pairwise (h : s.Consistent) (hn : Scored s.get? p) :
    (s.search p).Pairwise Hit.Before := by
  have hd := h.nodup_search p
  have hscore := h.search_score hn
  rw [search] at hd hscore ⊢
  have hperm := List.mergeSort_perm ((s.candidates p).filterMap fun id => do
    let score ← p.score? (← s.get? id)
    return (⟨id, score⟩ : Hit)) DocumentStore.Hit.le
  exact Hit.pairwise_before_mergeSort (fun hit hhit => hscore hit (hperm.mem_iff.mpr hhit))
    ((hperm.map Hit.id).nodup_iff.mp hd)

theorem score?_eq_of_get? {doc other : Fields} (h : doc.get? = other.get?) :
    p.score? doc = p.score? other :=
  Predicate.score?_congr p fun name _ => congrFun h name

/-- Stores of the same documents find the same candidates. -/
theorem Consistent.mem_candidates_congr (hs : s.Consistent) (ht : t.Consistent)
    (h : Documents.Same s.get? t.get?) (id : String) :
    id ∈ s.candidates p ↔ id ∈ t.candidates p := by
  have hmatch := h.map_eq (f := fun doc => p.isMatch doc)
    (fun doc other hget => Predicate.isMatch_congr p fun name _ => congrFun hget name) id
  rw [(hs.finds_candidates p).mem_iff, (ht.finds_candidates p).mem_iff]
  cases hd : s.get? id <;> cases he : t.get? id <;> simp_all

/-- Stores whose documents have the same scores give the same hits. -/
theorem Consistent.search_perm (hs : s.Consistent) (ht : t.Consistent)
    (h : ∀ id, (s.get? id).bind (fun doc => p.score? doc) =
      (t.get? id).bind fun doc => p.score? doc) : (s.search p).Perm (t.search p) := by
  have hmem : ∀ hit, hit ∈ s.search p ↔ hit ∈ t.search p := fun hit => by
    have hhit := h hit.id
    rw [hs.mem_search_iff, ht.mem_search_iff, ← Option.bind_eq_some_iff, hhit,
      Option.bind_eq_some_iff]
  exact (List.perm_ext_iff_of_nodup (List.Nodup.of_map _ (hs.nodup_search p))
    (List.Nodup.of_map _ (ht.nodup_search p))).mpr hmem

theorem Consistent.search_eq_of_perm (hs : s.Consistent) (ht : t.Consistent)
    (h : (s.search p).Perm (t.search p)) (hn : ∀ hit ∈ s.search p, hit.score ≠ .nan) :
    s.search p = t.search p := by
  have hnt : ∀ hit ∈ t.search p, hit.score ≠ .nan := fun hit hhit => hn hit (h.mem_iff.mpr hhit)
  exact Hit.eq_of_pairwise_before hn (hs.search_pairwise (hs.scored_of_search hn))
    (ht.search_pairwise (ht.scored_of_search hnt)) h

/-- Stores of the same documents give the same hits in the same order. -/
theorem Consistent.search_congr (hs : s.Consistent) (ht : t.Consistent)
    (h : Documents.Same s.get? t.get?) (hn : Scored s.get? p) : s.search p = t.search p := by
  refine hs.search_eq_of_perm ht (hs.search_perm ht fun id => ?_) (hs.search_score hn)
  have hscore := h.map_eq (f := fun doc => p.score? doc)
    (fun doc other hget => score?_eq_of_get? hget) id
  cases hd : s.get? id <;> cases he : t.get? id <;> simp_all

-- ---------------------------------------------------------------------------
-- Runs
-- ---------------------------------------------------------------------------

inductive Change where
  | put (id : String) (fields : Fields)
  | delete (id : String)

def apply (s : DocumentStore) : Change → DocumentStore
  | .put id fields => s.put id fields
  | .delete id => s.delete id

def run (changes : List Change) : DocumentStore := changes.foldl apply ∅

/-- The documents after one more change: the last word on an identifier counts. -/
def Change.effect (docs : Documents) : Change → Documents
  | .put id fields => fun other => if other = id then some fields else docs other
  | .delete id => fun other => if other = id then none else docs other

/-- The documents that are current after changes. -/
def current (changes : List Change) : Documents := changes.foldl Change.effect fun _ => none

theorem Consistent.apply (h : s.Consistent) (change : Change) : (s.apply change).Consistent := by
  cases change with
  | put id fields => exact h.put id fields
  | delete id => exact h.delete id

theorem get?_apply (s : DocumentStore) (change : Change) :
    (s.apply change).get? = change.effect s.get? := by
  funext other
  cases change with
  | put id fields => exact get?_put s id other fields
  | delete id => exact get?_delete s id other

theorem foldl_apply (changes : List Change) (h : s.Consistent) :
    (changes.foldl apply s).Consistent ∧
      (changes.foldl apply s).get? = changes.foldl Change.effect s.get? := by
  induction changes generalizing s with
  | nil => exact ⟨h, rfl⟩
  | cons change rest ih =>
    rw [List.foldl_cons, List.foldl_cons, ← get?_apply]
    exact ih (h.apply change)

theorem consistent_run (changes : List Change) : (run changes).Consistent :=
  (foldl_apply changes consistent_empty).1

theorem get?_run (changes : List Change) : (run changes).get? = current changes :=
  (foldl_apply changes consistent_empty).2

/-- A store answers a predicate from its indexes as its current documents answer it one by one.
The order of hits is fixed where all scores are numbers, and then histories that leave the same
documents give the same hits. -/
theorem run_answers_documents (changes : List Change) (p : Predicate Binary64) :
    ((run changes).candidates p).Nodup ∧
    (∀ id, id ∈ (run changes).candidates p ↔
      ∃ doc, current changes id = some doc ∧ p.isMatch doc = true) ∧
    (((run changes).search p).map Hit.id).Perm ((run changes).candidates p) ∧
    (∀ hit ∈ (run changes).search p,
      ∃ doc, current changes hit.id = some doc ∧ p.score? doc = some hit.score) ∧
    (Scored (current changes) p → ((run changes).search p).Pairwise Hit.Before) ∧
    (∀ others, (current changes).Same (current others) →
      (∀ id, id ∈ (run changes).candidates p ↔ id ∈ (run others).candidates p) ∧
      (Scored (current changes) p → (run changes).search p = (run others).search p)) ∧
    (∀ id field, (run changes).value? id field =
      ((run changes).get? id).bind fun doc => doc.get? field) ∧
    ∀ id, (run changes).get? id = current changes id := by
  have h := consistent_run changes
  have hget := get?_run changes
  have hfinds := h.finds_candidates p
  refine ⟨hfinds.nodup, fun id => ?_, h.map_id_search p, fun hit hhit => ?_, fun hn => ?_,
    fun others hsame => ?_, h.value, fun id => congrFun hget id⟩
  · rw [hfinds.mem_iff, Option.any_eq_true, hget]
  · rw [← hget]
    exact h.mem_search_iff.mp hhit
  · exact h.search_pairwise (hget ▸ hn)
  · have ho := consistent_run others
    rw [← hget, ← get?_run others] at hsame
    exact ⟨h.mem_candidates_congr ho hsame, fun hn => h.search_congr ho hsame (hget ▸ hn)⟩

end DocumentStore

end Bitemporal
