import Bitemporal.Error
import Bitemporal.Proofs.NumeralLaws

/-!
# Values that can be shown

A message may have to show any value: lists and objects of any depth, and integers of any size. A
value can be shown if it is not too deep and holds no integer that is too long to be written.
-/

namespace Bitemporal

theorem Numeral.isWritable_iff {n : Int} : isWritable n = true ↔ n.natAbs < 10 ^ maxDigits := by
  have hlength : (natDigits n.natAbs).length = (digits n.natAbs).length := by
    rw [natDigits_eq, List.length_map]
  rw [isWritable, decide_eq_true_iff, hlength]
  constructor
  · intro h
    exact (lt_pow_length_digits n.natAbs).trans_le (Nat.pow_le_pow_right (by decide) h)
  · intro h
    by_cases hzero : n.natAbs = 0
    · rw [hzero]
      decide
    · have hpow := (pow_length_digits_le hzero).trans_lt h
      have hexponent := (Nat.pow_lt_pow_iff_right (by decide)).mp hpow
      omega

namespace Value

-- ---------------------------------------------------------------------------
-- What showing a value meets
-- ---------------------------------------------------------------------------

mutual

/-- How many values stand inside one another where the value is shown. -/
def depth : Value → Nat
  | dateTime t => 1 + offsetDepth t
  | list items => 1 + itemsDepth items
  | object members => 1 + membersDepth members
  | _ => 1

def itemsDepth : List Value → Nat
  | [] => 0
  | v :: rest => max (depth v) (itemsDepth rest)

def membersDepth : List (String × Value) → Nat
  | [] => 0
  | (_, v) :: rest => max (depth v) (membersDepth rest)

end

/-- An integer is the value or stands somewhere inside it. -/
inductive Holds (n : Int) : Value → Prop
  | self : Holds n (.int n)
  | item {items : List Value} {v : Value} (here : v ∈ items) (holds : Holds n v) :
    Holds n (.list items)
  | member {members : List (String × Value)} {name : String} {v : Value}
      (here : (name, v) ∈ members) (holds : Holds n v) : Holds n (.object members)

/-- A value that can be shown. -/
structure Showable (v : Value) : Prop where
  depth : v.depth ≤ depthLimit
  writable : ∀ n, v.Holds n → n.natAbs < 10 ^ Numeral.maxDigits

-- ---------------------------------------------------------------------------
-- Faults
-- ---------------------------------------------------------------------------

theorem one_le_depth (v : Value) : 1 ≤ v.depth := by
  cases v <;> simp [depth]

mutual

theorem fault?_eq_none_iff : (room : Nat) → (v : Value) →
    (fault? room v = none ↔ v.depth ≤ room ∧ ∀ n, v.Holds n → Numeral.isWritable n = true)
  | 0, v => by
    have hdepth := one_le_depth v
    simp only [fault?, reduceCtorEq, false_iff]
    omega
  | room + 1, .list items => by
    rw [fault?, itemsFault?_eq_none_iff, depth, Nat.add_comm 1, Nat.add_le_add_iff_right]
    refine and_congr_right fun _ => ⟨fun h n hn => ?_, fun h v hv n hn => h n (.item hv hn)⟩
    cases hn with
    | item here holds => exact h _ here n holds
  | room + 1, .object members => by
    rw [fault?, membersFault?_eq_none_iff, depth, Nat.add_comm 1, Nat.add_le_add_iff_right]
    refine and_congr_right fun _ => ⟨fun h n hn => ?_, fun h name v hv n hn => h n (.member hv hn)⟩
    cases hn with
    | member here holds => exact h _ _ here n holds
  | room + 1, .int n => by
    have hholds (P : Int → Prop) : (∀ k, (Value.int n).Holds k → P k) ↔ P n :=
      ⟨fun h => h n .self, fun h k hk => by cases hk; exact h⟩
    rw [hholds]
    simp [fault?, depth]
  | room + 1, .dateTime t => by
    have hnone : ∀ k, ¬ (Value.dateTime t).Holds k := fun k hk => by cases hk
    simp only [fault?, depth, hnone, false_imp_iff, implies_true, and_true]
    split <;> simp <;> omega
  | room + 1, .null | room + 1, .bool _ | room + 1, .float _ | room + 1, .text _
  | room + 1, .bytes _ | room + 1, .date _ => by
    refine iff_of_true (by simp [fault?]) ⟨by simp [depth], fun k hk => ?_⟩
    cases hk

theorem itemsFault?_eq_none_iff (room : Nat) : (items : List Value) →
    (itemsFault? room items = none ↔ itemsDepth items ≤ room ∧
      ∀ v ∈ items, ∀ n, v.Holds n → Numeral.isWritable n = true)
  | [] => by simp [itemsFault?, itemsDepth]
  | v :: rest => by
    rw [itemsFault?, Option.or_eq_none_iff, fault?_eq_none_iff room v,
      itemsFault?_eq_none_iff room rest, itemsDepth, Nat.max_le, List.forall_mem_cons, and_and_and_comm]

theorem membersFault?_eq_none_iff (room : Nat) : (members : List (String × Value)) →
    (membersFault? room members = none ↔ membersDepth members ≤ room ∧
      ∀ name v, (name, v) ∈ members → ∀ n, v.Holds n → Numeral.isWritable n = true)
  | [] => by simp [membersFault?, membersDepth]
  | (name, v) :: rest => by
    have hname : fault? room v = none → fault? room (.text name) = none := by
      cases room <;> simp [fault?]
    rw [membersFault?, Option.or_eq_none_iff, Option.or_eq_none_iff, and_iff_right_of_imp hname,
      fault?_eq_none_iff room v, membersFault?_eq_none_iff room rest, membersDepth, Nat.max_le,
      and_and_and_comm]
    refine and_congr_right fun _ => ⟨fun h other w hw => ?_, fun h => ⟨?_, fun other w hw => ?_⟩⟩
    · rcases List.mem_cons.mp hw with heq | hrest
      · cases heq
        exact h.1
      · exact h.2 other w hrest
    · exact h name v List.mem_cons_self
    · exact h other w (List.mem_cons_of_mem _ hw)

end

variable {v : Value}

theorem fault?_eq_none : v.fault? depthLimit = none ↔ v.Showable := by
  rw [fault?_eq_none_iff]
  constructor
  · rintro ⟨hdepth, hwritable⟩
    exact ⟨hdepth, fun n hn => Numeral.isWritable_iff.mp (hwritable n hn)⟩
  · intro h
    exact ⟨h.depth, fun n hn => Numeral.isWritable_iff.mpr (h.writable n hn)⟩

/-- Values without others inside them, as far as they hold no integer. -/
theorem showable_of_shallow (hdepth : v.depth ≤ 3) (hnone : ∀ n, ¬ v.Holds n) : v.Showable :=
  ⟨hdepth.trans (by decide), fun n hn => absurd hn (hnone n)⟩

theorem showable_int {n : Int} (h : n.natAbs < 10 ^ Numeral.maxDigits) : (int n).Showable := by
  have hdepth : (int n).depth = 1 := rfl
  refine ⟨hdepth.trans_le (by decide), fun k hk => ?_⟩
  cases hk
  exact h

end Value

namespace Error

variable {v : Value} {e : Error}

theorem showing_of_showable (h : v.Showable) : showing v e = e := by
  rw [showing, Value.fault?_eq_none.mpr h]

theorem showing_of_not_showable (h : ¬ v.Showable) : ∃ fault, showing v e = .unshown fault := by
  cases hfault : v.fault? Value.depthLimit with
  | none => exact absurd (Value.fault?_eq_none.mp hfault) h
  | some fault => exact ⟨fault, by rw [showing, hfault]⟩

end Error

end Bitemporal
