import Mathlib.Algebra.Group.Nat.Defs
import Bitemporal.Number.Binary64

/-!
# Rounding to doubles

A magnitude divided by its grain has at most 53 bits, and rounding leads at most to the power of two
after them. Whole multiples of powers of two of that size are magnitudes of doubles, so rounding is
finite for everything that stays below half the limit, and so for every integer below 2¹⁰²³.
-/

namespace Bitemporal.Binary64

theorem grain_eq (units : Nat) : grain units = 2 ^ (units.log2 - 52) := rfl

-- The exponents are kept as names, so that the powers are not worked out.

theorem unitsPerOne_eq : unitsPerOne = 2 ^ unitBits := by
  unfold unitsPerOne
  generalize unitBits = bits
  rfl

theorem limit_eq : limit = 2 ^ limitBits := by
  unfold limit
  generalize limitBits = bits
  rfl

theorem nearest_le (num den : Nat) : nearest num den ≤ num / den + 1 := by
  unfold nearest
  dsimp only
  split <;> omega

theorem div_grain_lt (units : Nat) : units / grain units < 2 ^ 53 := by
  have hlog : units < 2 ^ (units.log2 + 1) := Nat.lt_log2_self
  have hpow : 2 ^ (units.log2 + 1) ≤ 2 ^ (53 + (units.log2 - 52)) :=
    Nat.pow_le_pow_right (by decide) (by omega)
  rw [grain_eq, Nat.div_lt_iff_lt_mul (Nat.two_pow_pos _), ← Nat.pow_add]
  exact Nat.lt_of_lt_of_le hlog hpow

theorem log2_mul_two_pow {q : Nat} (h : q ≠ 0) (k : Nat) : (q * 2 ^ k).log2 = q.log2 + k := by
  have hpos : q * 2 ^ k ≠ 0 := Nat.mul_ne_zero h (Nat.pos_iff_ne_zero.mp (Nat.two_pow_pos k))
  rw [Nat.log2_eq_iff hpos, Nat.pow_add, Nat.add_right_comm, Nat.pow_add]
  exact ⟨Nat.mul_le_mul_right _ (Nat.log2_self_le h),
    Nat.mul_lt_mul_of_pos_right Nat.lt_log2_self (Nat.two_pow_pos k)⟩

/-- A multiple of a power of two has at most 53 significant bits if the factor does. -/
theorem grain_dvd_mul_two_pow {q : Nat} (h : q ≤ 2 ^ 53) (k : Nat) :
    grain (q * 2 ^ k) ∣ q * 2 ^ k := by
  by_cases hzero : q = 0
  · simp [hzero]
  rw [grain_eq, log2_mul_two_pow hzero]
  by_cases hlast : q = 2 ^ 53
  · rw [hlast, Nat.log2_two_pow, ← Nat.pow_add]
    exact Nat.pow_dvd_pow 2 (by omega)
  · have hlog : q.log2 < 53 := (Nat.log2_lt hzero).mpr (by omega)
    exact Nat.dvd_mul_left_of_dvd (Nat.pow_dvd_pow 2 (by omega)) q

theorem representable_mul_two_pow {q k : Nat} (hq : q ≤ 2 ^ 53) (hk : 53 + k < limitBits) :
    Representable (q * 2 ^ k) := by
  refine ⟨?_, Nat.mod_eq_zero_of_dvd (grain_dvd_mul_two_pow hq k)⟩
  calc q * 2 ^ k ≤ 2 ^ 53 * 2 ^ k := Nat.mul_le_mul_right _ hq
    _ = 2 ^ (53 + k) := (Nat.pow_add 2 53 k).symm
    _ < 2 ^ limitBits := Nat.pow_lt_pow_right (by decide) hk
    _ = limit := limit_eq.symm

theorem ofRounded_eq {negative : Bool} {units : Nat} (h : Representable units) :
    ofRounded negative units = .finite negative units h := dif_pos h

theorem ofUnits_finite {num den e : Nat} (negative : Bool) (h : num / den < 2 ^ e)
    (he : e < limitBits) :
    ∃ units fits, ofUnits negative num den = .finite negative units fits := by
  have hq : nearest num (den * grain (num / den)) ≤ 2 ^ 53 := by
    have hle := nearest_le num (den * grain (num / den))
    have hlt := div_grain_lt (num / den)
    rw [← Nat.div_div_eq_div_mul] at hle
    omega
  have hk : 53 + ((num / den).log2 - 52) < limitBits := by
    by_cases hzero : num / den = 0
    · rw [hzero]
      decide
    · have hlog := (Nat.log2_lt hzero).mpr h
      have hbits : 53 < limitBits := by decide
      omega
  exact ⟨_, _, ofRounded_eq (representable_mul_two_pow hq hk)⟩

/-- Integers below 2¹⁰²³ have doubles. -/
theorem isSome_ofInt? {n : Int} {e : Nat} (h : n.natAbs < 2 ^ e) (he : e + unitBits < limitBits) :
    (ofInt? n).isSome = true := by
  have hunits : n.natAbs * unitsPerOne / 1 < 2 ^ (e + unitBits) := by
    rw [Nat.div_one, unitsPerOne_eq, Nat.pow_add]
    exact Nat.mul_lt_mul_of_pos_right h (Nat.two_pow_pos _)
  obtain ⟨units, fits, hfinite⟩ := ofUnits_finite (decide (n < 0)) hunits he
  rw [ofInt?, hfinite]
  rfl

-- ---------------------------------------------------------------------------
-- Whole numbers
-- ---------------------------------------------------------------------------

theorem nearest_mul (q : Nat) {den : Nat} (h : 0 < den) : nearest (q * den) den = q := by
  unfold nearest
  rw [Nat.mul_div_cancel q h, Nat.mul_mod_left]
  exact if_neg (by omega)

/-- What a double can hold is not rounded. -/
theorem ofUnits_mul {units den : Nat} (negative : Bool) (h : Representable units)
    (hden : 0 < den) : ofUnits negative (units * den) den = ofRounded negative units := by
  have hgrain : 0 < den * grain units := Nat.mul_pos hden (Nat.two_pow_pos _)
  have hquotient : units / grain units * grain units = units :=
    Nat.div_mul_cancel (Nat.dvd_of_mod_eq_zero h.2)
  have hnum : units * den = units / grain units * (den * grain units) := by
    rw [Nat.mul_left_comm, hquotient, Nat.mul_comm]
  rw [ofUnits, Nat.mul_div_cancel units hden, hnum, nearest_mul _ hgrain, hquotient]

theorem unitsPerOne_pos : 0 < unitsPerOne := unitsPerOne_eq ▸ Nat.two_pow_pos _

theorem zero_def : (0 : Binary64) = zero := rfl

theorem one_def : (1 : Binary64) = one := rfl

theorem add_def (x y : Binary64) : x + y = add x y := rfl

theorem mul_def (x y : Binary64) : x * y = mul x y := rfl

def ofCount (n : Nat) : Binary64 := ofUnits false (n * unitsPerOne) 1

theorem representable_count {n : Nat} (h : n ≤ 2 ^ 53) : Representable (n * unitsPerOne) := by
  rw [unitsPerOne_eq]
  exact representable_mul_two_pow h (by decide)

theorem ofCount_eq {n : Nat} (h : n ≤ 2 ^ 53) :
    ofCount n = ofRounded false (n * unitsPerOne) := by
  have hexact := ofUnits_mul false (representable_count h) Nat.one_pos
  rwa [Nat.mul_one] at hexact

theorem ofCount_zero : ofCount 0 = 0 := by
  rw [ofCount_eq (Nat.zero_le _), Nat.zero_mul, zero_def, zero]

theorem ofCount_one : ofCount 1 = 1 := by
  rw [ofCount_eq (by decide), Nat.one_mul, one_def, one]

/-- Whole numbers up to 2⁵³ are added without rounding. -/
theorem ofCount_add {j k : Nat} (h : j + k ≤ 2 ^ 53) : ofCount j + ofCount k = ofCount (j + k) := by
  have hj := Nat.le_trans (Nat.le_add_right j k) h
  have hk := Nat.le_trans (Nat.le_add_left k j) h
  rw [ofCount_eq hj, ofCount_eq hk, ofRounded_eq (representable_count hj),
    ofRounded_eq (representable_count hk), add_def]
  simp only [add, signedUnits, Bool.false_eq_true, if_false, ← Int.natCast_add, ← Nat.add_mul]
  split
  case isTrue hzero =>
    rw [ofCount_eq h, Int.natCast_eq_zero.mp hzero, Bool.and_self]
  case isFalse =>
    rw [decide_eq_false (by omega), Int.natAbs_natCast, ofCount]

theorem one_mul_ofCount {n : Nat} (h : n ≤ 2 ^ 53) : 1 * ofCount n = ofCount n := by
  have hone := representable_count (Nat.one_le_two_pow (n := 53))
  rw [← ofCount_one, ofCount_eq h, ofCount_eq Nat.one_le_two_pow, ofRounded_eq hone,
    ofRounded_eq (representable_count h), mul_def, mul, Nat.one_mul, Nat.mul_comm unitsPerOne,
    bne_self_eq_false, ofUnits_mul false (representable_count h) unitsPerOne_pos,
    ofRounded_eq (representable_count h)]

end Bitemporal.Binary64
