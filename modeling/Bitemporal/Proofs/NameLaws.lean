import Mathlib.Data.List.Basic
import Bitemporal.Partition

/-!
# Stored names do not collide

A stored name is the name of a field with a partition and an end, or with the mark of current
records, behind dots. Field names may hold dots and partition names themselves. Still a stored
name tells its field, its partition and its end: the last segments hold no dots.
-/

namespace Bitemporal

/-- Only the last dot matters when the last segment has none. -/
theorem append_dot_inj {f g s t : List Char} (hs : '.' ∉ s) (ht : '.' ∉ t)
    (h : f ++ '.' :: s = g ++ '.' :: t) : f = g ∧ s = t := by
  -- Where one prefix were longer, its dot would lie inside the other's last segment.
  rcases List.append_eq_append_iff.mp h with ⟨c, rfl, hc⟩ | ⟨c, rfl, hc⟩ <;> cases c with
  | nil => simp_all
  | cons x c =>
    simp only [List.cons_append, List.cons.injEq] at hc
    simp [hc.2] at hs ht

theorem dotted_inj {f g s t : String} (hs : '.' ∉ s.toList) (ht : '.' ∉ t.toList) :
    f ++ "." ++ s = g ++ "." ++ t ↔ f = g ∧ s = t := by
  constructor
  · intro h
    rw [← String.toList_inj] at h
    simp only [String.toList_append, List.append_assoc] at h
    obtain ⟨hf, hst⟩ := append_dot_inj hs ht h
    exact ⟨String.toList_inj.mp hf, String.toList_inj.mp hst⟩
  · rintro ⟨rfl, rfl⟩
    rfl

namespace Axis

theorem stored_dotless (axis : Axis) : '.' ∉ axis.stored.toList := by
  cases axis <;> decide

theorem stored_inj {a b : Axis} : a.stored = b.stored ↔ a = b := by
  cases a <;> cases b <;> decide

end Axis

namespace Partition

theorem name_dotless (p : Partition) : '.' ∉ p.name.toList := by
  cases p <;> decide

theorem name_inj {p q : Partition} : p.name = q.name ↔ p = q := by
  cases p <;> cases q <;> decide

@[simp] theorem fieldName_inj {f g : String} {p q : Partition} {a b : Axis} :
    p.fieldName f a = q.fieldName g b ↔ f = g ∧ p = q ∧ a = b := by
  simp only [fieldName, dotted_inj a.stored_dotless b.stored_dotless,
    dotted_inj p.name_dotless q.name_dotless, name_inj, Axis.stored_inj, and_assoc]

/-- The mark of current records as the last segment of a name. -/
theorem flagName_eq (field : String) : flagName field = field ++ "." ++ "T1UT2" := by
  rw [flagName, String.append_assoc]
  rfl

@[simp] theorem flagName_inj {f g : String} : flagName f = flagName g ↔ f = g := by
  rw [flagName_eq, flagName_eq, dotted_inj (by decide) (by decide)]
  simp

@[simp] theorem fieldName_ne_flagName {f g : String} {p : Partition} {axis : Axis} :
    p.fieldName f axis ≠ flagName g := by
  intro h
  rw [fieldName, flagName_eq, dotted_inj axis.stored_dotless (by decide)] at h
  exact absurd h.2 (by cases axis <;> decide)

/-- A name under which a bitemporal mapper of a field may store. -/
def IsStoredName (field name : String) : Prop :=
  name = flagName field ∨ ∃ (p : Partition) (axis : Axis), name = p.fieldName field axis

theorem IsStoredName.flag (field : String) : IsStoredName field (flagName field) := .inl rfl

theorem IsStoredName.axis (field : String) (p : Partition) (axis : Axis) :
    IsStoredName field (p.fieldName field axis) := .inr ⟨p, axis, rfl⟩

/-- A stored name belongs to one field only. -/
theorem IsStoredName.unique {f g name : String} (hf : IsStoredName f name)
    (hg : IsStoredName g name) : f = g := by
  rcases hf with rfl | ⟨p, a, rfl⟩ <;> rcases hg with hg | ⟨q, b, hg⟩
  · exact flagName_inj.mp hg
  · exact absurd hg.symm fieldName_ne_flagName
  · exact absurd hg fieldName_ne_flagName
  · exact (fieldName_inj.mp hg).1

end Partition

end Bitemporal
