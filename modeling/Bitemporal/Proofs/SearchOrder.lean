import Bitemporal.Proofs.Replacement

/-!
# The order of a sorted search

A sorted search gives the hits of the search without sort fields in another order: by the first
sort field, then by the second, and so on, and finally as they stood before. For each field by
itself, documents without a value come last, also where the order is reversed. The hits have only
one such order, and a limit cuts off its tail.
-/

namespace Bitemporal

-- ---------------------------------------------------------------------------
-- Stability
-- ---------------------------------------------------------------------------

/-- Sorting keeps the order of elements that tie. -/
theorem pairwise_mergeSort_of_pairwise {α : Type} {le : α → α → Bool} {R : α → α → Prop}
    {l : List α} (trans : ∀ a b c, le a b = true → le b c = true → le a c = true)
    (total : ∀ a b, (le a b || le b a) = true) (h : l.Pairwise R) :
    (l.mergeSort le).Pairwise fun a b => le a b = true ∧ (le b a = true → R a b) := by
  -- Elements that tie may be equal, so the places are compared and not the elements.
  rw [← List.mergeSort_zipIdx, List.pairwise_map]
  have hperm := List.mergeSort_perm l.zipIdx (List.zipIdxLE le)
  have hplaces : (l.zipIdx.mergeSort (List.zipIdxLE le)).Pairwise fun a b => a.2 ≠ b.2 :=
    List.pairwise_map.mp ((hperm.map Prod.snd).nodup_iff.mpr (by
      rw [List.zipIdx_map_snd]
      exact List.nodup_range'))
  have hsorted :=
    List.pairwise_mergeSort (List.zipIdxLE_trans trans) (List.zipIdxLE_total total) l.zipIdx
  refine (hsorted.and hplaces).imp_of_mem fun {a b} ha hb ⟨hle, hne⟩ => ?_
  have ha := List.mem_zipIdx_iff_getElem?.mp (hperm.mem_iff.mp ha)
  have hb := List.mem_zipIdx_iff_getElem?.mp (hperm.mem_iff.mp hb)
  obtain ⟨hi, ha⟩ := List.getElem?_eq_some_iff.mp ha
  obtain ⟨hj, hb⟩ := List.getElem?_eq_some_iff.mp hb
  unfold List.zipIdxLE at hle
  split at hle
  case isFalse => cases hle
  case isTrue hab =>
    refine ⟨hab, fun hba => ?_⟩
    rw [if_pos hba, decide_eq_true_eq] at hle
    rw [← ha, ← hb]
    exact List.pairwise_iff_getElem.mp h _ _ hi hj (Nat.lt_of_le_of_ne hle hne)

-- ---------------------------------------------------------------------------
-- One sort field
-- ---------------------------------------------------------------------------

/-- The value that a document has for a field. -/
def Documents.value? (docs : Documents) (id field : String) : Option Int :=
  (docs id).bind fun doc => doc.get? field

/-- Strictly earlier under one sort field. A value comes before no value in either direction. -/
def SortField.Precedes (sort : SortField) : Option Int → Option Int → Prop
  | some v, some w => if sort.reverse then w < v else v < w
  | some _, none => True
  | none, _ => False

theorem SortField.Precedes.asymm {sort : SortField} {v w : Option Int} (h : sort.Precedes v w) :
    v ≠ w ∧ ¬ sort.Precedes w v := by
  cases v with
  | none => exact h.elim
  | some v =>
    cases w with
    | none => simp [Precedes]
    | some w => cases hr : sort.reverse <;> simp [Precedes, hr] at h ⊢ <;> omega

namespace Index

variable {x : Index} {sort : SortField} {sorts : List SortField} {hits : List Hit}

theorem keyLe_trans (a b c : Bool × Int) (hab : keyLe a b = true) (hbc : keyLe b c = true) :
    keyLe a c = true := by
  obtain ⟨p, i⟩ := a
  obtain ⟨q, j⟩ := b
  obtain ⟨r, k⟩ := c
  cases p <;> cases q <;> cases r <;> simp [keyLe] at hab hbc ⊢ <;> omega

theorem keyLe_total (a b : Bool × Int) : (keyLe a b || keyLe b a) = true := by
  obtain ⟨p, i⟩ := a
  obtain ⟨q, j⟩ := b
  cases p <;> cases q <;> simp [keyLe] <;> omega

/-- The sort key of a value. -/
def keyOf (sort : SortField) : Option Int → Bool × Int
  | none => (true, 0)
  | some v => (false, if sort.reverse then -v else v)

theorem sortKey_eq (h : x.store.Consistent) (sort : SortField) (id : String) :
    x.sortKey sort id = keyOf sort (Documents.value? x.store.get? id sort.field) := by
  rw [sortKey, h.value, Documents.value?]
  cases (x.store.get? id).bind fun doc => doc.get? sort.field <;> rfl

theorem keyLe_keyOf (sort : SortField) (v w : Option Int) :
    keyLe (keyOf sort v) (keyOf sort w) = true ↔ sort.Precedes v w ∨ v = w := by
  cases v with
  | none => cases w <;> simp [keyLe, keyOf, SortField.Precedes]
  | some v =>
    cases w with
    | none => simp [keyLe, keyOf, SortField.Precedes]
    | some w =>
      cases hr : sort.reverse <;> simp [keyLe, keyOf, SortField.Precedes, hr] <;> omega

end Index

-- ---------------------------------------------------------------------------
-- All sort fields
-- ---------------------------------------------------------------------------

/-- Strictly earlier by the first of some sort fields that tells two hits apart, and as hits where
none does. -/
def Hit.Ranked (docs : Documents) : List SortField → Hit → Hit → Prop
  | [], a, b => a.Before b
  | sort :: rest, a, b =>
    sort.Precedes (docs.value? a.id sort.field) (docs.value? b.id sort.field) ∨
      (docs.value? a.id sort.field = docs.value? b.id sort.field ∧ Ranked docs rest a b)

theorem Hit.Ranked.asymm {docs : Documents} {sorts : List SortField} {a b : Hit}
    (ha : a.score ≠ .nan) (hb : b.score ≠ .nan) (h : Ranked docs sorts a b) :
    ¬ Ranked docs sorts b a := by
  induction sorts with
  | nil => exact Hit.Before.asymm ha hb h
  | cons sort rest ih =>
    rcases h with h | ⟨heq, h⟩
    · rintro (h' | ⟨heq, -⟩)
      · exact h.asymm.2 h'
      · exact h.asymm.1 heq.symm
    · rintro (h' | ⟨-, h'⟩)
      · exact h'.asymm.1 heq.symm
      · exact ih h h'

namespace Index

variable {x : Index} {sort : SortField} {sorts : List SortField} {hits : List Hit}
  {c : Condition}

theorem sortHits_perm (x : Index) (sorts : List SortField) (hits : List Hit) :
    (x.sortHits sorts hits).Perm hits := by
  induction sorts with
  | nil => exact .refl _
  | cons sort rest ih => exact (List.mergeSort_perm _ _).trans ih

/-- One pass puts its field in front of those that were sorted by before. -/
theorem sortHits_pairwise (h : x.store.Consistent) (hb : hits.Pairwise Hit.Before)
    (sorts : List SortField) :
    (x.sortHits sorts hits).Pairwise (Hit.Ranked x.store.get? sorts) := by
  induction sorts with
  | nil => exact hb
  | cons sort rest ih =>
    let key (hit : Hit) := x.sortKey sort hit.id
    have hpass := pairwise_mergeSort_of_pairwise
      (fun a b c => keyLe_trans (key a) (key b) (key c)) (fun a b => keyLe_total (key a) (key b)) ih
    refine hpass.imp fun {a b} ⟨hab, hties⟩ => ?_
    simp only [key, sortKey_eq h, keyLe_keyOf] at hab hties
    rcases hab with hless | heq
    · exact .inl hless
    · exact .inr ⟨heq, hties (.inr heq.symm)⟩

theorem resolveSorts_ok {schema : Schema} (hs : schema.Keyed)
    (hsorts : ∀ sort ∈ sorts, ∃ m, schema.longMapper sort.field = .ok m) :
    schema.resolveSorts sorts = .ok sorts := by
  induction sorts with
  | nil => rfl
  | cons sort rest ih =>
    obtain ⟨⟨m, hm⟩, hrest⟩ := List.forall_mem_cons.mp hsorts
    have hget : schema.get? sort.field = some (.long m) := by
      unfold Schema.longMapper at hm
      split at hm <;> simp_all
    have hfield : m.field = sort.field := hs _ _ hget
    have hsort : schema.resolveSort sort = .ok sort := by
      simp only [Schema.resolveSort, hget, Mapper.sortField, hfield]
    rw [Schema.resolveSorts, List.mapM_cons, hsort]
    exact bind_ok.mpr ⟨sort, rfl, bind_ok.mpr ⟨rest, ih hrest, rfl⟩⟩

theorem search_resolved (hs : x.schema.Keyed)
    (hsorts : ∀ sort ∈ sorts, ∃ m, x.schema.longMapper sort.field = .ok m) (c : Condition)
    (limit : Option Int) :
    x.search c sorts limit =
      (x.query c).map fun p => limited limit (x.sortHits sorts (x.store.search p)) := by
  unfold search
  rw [resolveSorts_ok hs hsorts]
  cases x.query c <;> rfl

/-- A limit that is not negative is the most that there can be. -/
theorem limited_some_eq {limit : Int} (h : 0 ≤ limit) (hits : List Hit) :
    limited (some limit) hits = hits.take limit.toNat := if_pos h

theorem limited_isPrefix (limit : Option Int) (hits : List Hit) :
    limited limit hits <+: hits := by
  unfold limited
  split
  · exact List.prefix_rfl
  · split <;> exact List.take_prefix _ _

/-- A search by long fields fails as the plain search does, or gives the hits of the plain search
in their only order by the sort fields. Of these, a limit leaves the front. -/
theorem search_sorted (h : x.Reachable) (c : Condition) (sorts : List SortField)
    (hsorts : ∀ sort ∈ sorts, ∃ m, x.schema.longMapper sort.field = .ok m) :
    (∀ e, x.search c [] none = .error e → ∀ limit, x.search c sorts limit = .error e) ∧
    ∀ hits, x.search c [] none = .ok hits → (∀ hit ∈ hits, hit.score ≠ .nan) →
      ∃ sorted, x.search c sorts none = .ok sorted ∧ sorted.Perm hits ∧
        sorted.Pairwise (Hit.Ranked x.store.get? sorts) ∧
        (∀ others : List Hit, others.Perm hits →
          others.Pairwise (Hit.Ranked x.store.get? sorts) → others = sorted) ∧
        ∀ limit : Int, ∃ front, x.search c sorts (some limit) = .ok front ∧ front <+: sorted ∧
          (0 ≤ limit → (front.length : Int) = min limit sorted.length) := by
  have hsearch := search_resolved h.keyed hsorts c
  have hplain : x.search c [] none = (x.query c).map x.store.search :=
    search_resolved h.keyed (by simp) c none
  refine ⟨fun e he limit => ?_, fun hits hfound hn => ?_⟩
  · rw [hplain] at he
    rw [hsearch]
    cases hq : x.query c <;> rw [hq] at he <;> cases he
    rfl
  · obtain ⟨p, hp, rfl⟩ := map_ok.mp (hplain.symm.trans hfound)
    have hsorted (limit : Option Int) : x.search c sorts limit =
        .ok (limited limit (x.sortHits sorts (x.store.search p))) := by
      rw [hsearch, hp]
      rfl
    have hperm := sortHits_perm x sorts (x.store.search p)
    have hbefore := h.consistent.search_pairwise (h.consistent.scored_of_search hn)
    have hranked := sortHits_pairwise h.consistent hbefore sorts
    refine ⟨_, hsorted none, hperm, hranked, fun others hothers hpairs => ?_, fun limit =>
      ⟨_, hsorted (some limit), limited_isPrefix _ _, fun hlimit => ?_⟩⟩
    · refine List.Perm.eq_of_pairwise (fun a b ha hb hab hba => ?_) hpairs hranked
        (hothers.trans hperm.symm)
      have ha := hn a (hothers.mem_iff.mp ha)
      have hb := hn b (hperm.mem_iff.mp hb)
      exact absurd hba (hab.asymm ha hb)
    · rw [limited_some_eq hlimit, List.length_take]
      change _ = min limit ((x.sortHits sorts (x.store.search p)).length : Int)
      omega

/-- A document without a value comes last in the reverse order, too. -/
theorem search_sorted_reverse :
    let schema : Schema := ⟨((∅ : OrderedMap Mapper).insert "n" (.long ⟨"n", "n"⟩)).insert
      "rank" (.long ⟨"rank", "rank"⟩)⟩
    let x := (empty schema 1).run [.insert "a" (OrderedMap.ofList [("n", .int 1)]),
      .insert "b" (OrderedMap.ofList [("n", .int 2), ("rank", .int 7)])]
    let c : Condition := .range ⟨"n", none, none, none, true, true⟩
    x.search c [] none = .ok [⟨"a", 1⟩, ⟨"b", 1⟩] ∧
      x.search c [⟨"rank", true⟩] none = .ok [⟨"b", 1⟩, ⟨"a", 1⟩] := by
  intro schema x c
  have hschema : Schema.ofMappers [.long ⟨"n", "n"⟩, .long ⟨"rank", "rank"⟩] = .ok schema := rfl
  have hx : x.Reachable := reachable_run hschema 1 _
  have hplain : x.search c [] none = .ok [⟨"a", 1⟩, ⟨"b", 1⟩] := by
    have hinorder : [⟨"a", 1⟩, ⟨"b", 1⟩].Pairwise
        fun a b => DocumentStore.Hit.le a b = true := by decide +kernel
    exact congrArg Except.ok (List.mergeSort_of_pairwise hinorder)
  have hsorts : ∀ sort ∈ [SortField.mk "rank" true],
      ∃ m, x.schema.longMapper sort.field = .ok m := by simpa using ⟨_, rfl⟩
  obtain ⟨sorted, hsorted, -, -, hunique, -⟩ :=
    (search_sorted hx c [⟨"rank", true⟩] hsorts).2 _ hplain (by decide +kernel)
  have hranked : [⟨"b", 1⟩, ⟨"a", 1⟩].Pairwise (Hit.Ranked x.store.get? [⟨"rank", true⟩]) :=
    List.pairwise_pair.mpr (.inl trivial)
  exact ⟨hplain, hunique _ (.swap ..) hranked ▸ hsorted⟩

end Index

end Bitemporal
