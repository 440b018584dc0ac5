import Bitemporal.DocumentStore
import Mathlib.Data.List.Basic

/-!
# The order of hits

Where every score is a number, sorting hits puts the better score first and orders hits of equal
scores by their identifiers. Hits with distinct identifiers have only one such order.
-/

namespace Bitemporal.Hit

/-- Strictly earlier among hits: a better score, or an equal one and a smaller identifier. -/
def Before (a b : Hit) : Prop :=
  b.score.lt a.score = true ∨ (a.score.eqv b.score = true ∧ a.id < b.id)

/-- The place of a score among numbers; the undefined score has none of its own. -/
def place (h : Hit) : Int := h.score.rank?.getD 0

theorem rank?_eq_place {h : Hit} (hn : h.score ≠ .nan) : h.score.rank? = some h.place := by
  unfold place
  cases hs : h.score <;> simp_all [Binary64.rank?]

theorem le_iff {a b : Hit} (ha : a.score ≠ .nan) (hb : b.score ≠ .nan) :
    DocumentStore.Hit.le a b = true ↔ b.place < a.place ∨ (a.place = b.place ∧ a.id ≤ b.id) := by
  simp [DocumentStore.Hit.le, Binary64.lt, Binary64.eqv, rank?_eq_place ha, rank?_eq_place hb]

theorem before_iff {a b : Hit} (ha : a.score ≠ .nan) (hb : b.score ≠ .nan) :
    a.Before b ↔ b.place < a.place ∨ (a.place = b.place ∧ a.id < b.id) := by
  simp [Before, Binary64.lt, Binary64.eqv, rank?_eq_place ha, rank?_eq_place hb]

/-- The order of hits by their places, which is total whatever the scores are. -/
def placedLe (a b : Hit) : Bool := decide (b.place < a.place ∨ (a.place = b.place ∧ a.id ≤ b.id))

theorem placedLe_trans (a b c : Hit) (hab : placedLe a b = true) (hbc : placedLe b c = true) :
    placedLe a c = true := by
  simp only [placedLe, decide_eq_true_eq] at hab hbc ⊢
  rcases hab with hab | ⟨hab, hid⟩ <;> rcases hbc with hbc | ⟨hbc, hid'⟩
  · exact .inl (by omega)
  · exact .inl (by omega)
  · exact .inl (by omega)
  · exact .inr ⟨hab.trans hbc, String.le_trans hid hid'⟩

theorem placedLe_total (a b : Hit) : (placedLe a b || placedLe b a) = true := by
  simp only [placedLe, Bool.or_eq_true, decide_eq_true_eq]
  rcases Int.lt_trichotomy a.place b.place with h | h | h
  · exact .inr (.inl h)
  · rcases String.le_total a.id b.id with hid | hid
    · exact .inl (.inr ⟨h, hid⟩)
    · exact .inr (.inr ⟨h.symm, hid⟩)
  · exact .inl (.inl h)

/-- Among numbers the two orders sort alike. -/
theorem mergeSort_eq {hits : List Hit} (hn : ∀ h ∈ hits, h.score ≠ .nan) :
    hits.mergeSort DocumentStore.Hit.le = hits.mergeSort placedLe := by
  have hagree : ∀ a ∈ hits, ∀ b ∈ hits, DocumentStore.Hit.le a b = placedLe a b := by
    intro a ha b hb
    rw [Bool.eq_iff_iff, le_iff (hn a ha) (hn b hb), placedLe, decide_eq_true_eq]
  simpa using List.map_mergeSort (f := fun h => h) hagree

theorem pairwise_before_mergeSort {hits : List Hit} (hn : ∀ h ∈ hits, h.score ≠ .nan)
    (hd : (hits.map Hit.id).Nodup) : (hits.mergeSort DocumentStore.Hit.le).Pairwise Before := by
  have hperm := List.mergeSort_perm hits DocumentStore.Hit.le
  have hids : (hits.mergeSort DocumentStore.Hit.le).Pairwise fun a b => a.id ≠ b.id :=
    List.pairwise_map.mp ((hperm.map Hit.id).nodup_iff.mpr hd)
  have hle : (hits.mergeSort DocumentStore.Hit.le).Pairwise fun a b => placedLe a b = true := by
    rw [mergeSort_eq hn]
    exact List.pairwise_mergeSort placedLe_trans placedLe_total hits
  refine (hle.and hids).imp_of_mem fun {a b} ha hb ⟨hab, hne⟩ => ?_
  rw [before_iff (hn a (hperm.mem_iff.mp ha)) (hn b (hperm.mem_iff.mp hb))]
  simp only [placedLe, decide_eq_true_eq] at hab
  refine hab.imp_right fun ⟨hp, hid⟩ => ⟨hp, ?_⟩
  exact String.not_le.mp fun hba => hne (String.le_antisymm hid hba)

theorem Before.asymm {a b : Hit} (ha : a.score ≠ .nan) (hb : b.score ≠ .nan) (h : a.Before b) :
    ¬ b.Before a := by
  rw [before_iff ha hb] at h
  rw [before_iff hb ha]
  rintro (h' | ⟨hp, hid'⟩) <;> rcases h with h | ⟨hp', hid⟩
  · omega
  · omega
  · omega
  · exact String.lt_irrefl _ (String.lt_trans hid hid')

/-- Two orderings of the same hits are the same list. -/
theorem eq_of_pairwise_before {hits others : List Hit} (hn : ∀ h ∈ hits, h.score ≠ .nan)
    (h : hits.Pairwise Before) (ho : others.Pairwise Before) (hp : hits.Perm others) :
    hits = others :=
  List.Perm.eq_of_pairwise
    (fun a b ha hb hab hba => absurd hba (hab.asymm (hn a ha) (hn b (hp.mem_iff.mpr hb)))) h ho hp

end Bitemporal.Hit
