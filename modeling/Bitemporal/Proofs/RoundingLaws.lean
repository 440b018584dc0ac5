import Mathlib.Algebra.Order.Field.Rat
import Mathlib.Tactic.Linarith
import Mathlib.Tactic.Ring
import Bitemporal.Number.Shortest
import Bitemporal.Proofs.Binary64Laws

/-!
# What rounds to a double

The magnitudes that round to a double are those between the midpoints to its two neighbours, where
the midpoints count for an even significand. Below a power of two the neighbours are half as far
apart, so there the lower midpoint is nearer. Integers round to a double as long as they stay below
the midpoint between the largest double and the power of two behind it.
-/

namespace Bitemporal.Binary64

variable {units num den : Nat}

-- ---------------------------------------------------------------------------
-- Grains
-- ---------------------------------------------------------------------------

theorem grain_pos (units : Nat) : 0 < grain units := Nat.two_pow_pos _

theorem grain_of_between {j : Nat} (hlow : j = 0 ∨ 2 ^ 52 * 2 ^ j ≤ units)
    (hhigh : units < 2 ^ 53 * 2 ^ j) : grain units = 2 ^ j := by
  rw [grain_eq]
  congr 1
  rcases hlow with rfl | hlow
  · by_cases hzero : units = 0
    · rw [hzero]
      rfl
    · have hlog : units.log2 < 53 := (Nat.log2_lt hzero).mpr (by omega)
      omega
  · have hzero : units ≠ 0 := by
      have := Nat.two_pow_pos j
      omega
    have hlog : units.log2 = 52 + j := by
      rw [Nat.log2_eq_iff hzero, Nat.pow_add, Nat.add_right_comm, Nat.pow_add]
      exact ⟨hlow, hhigh⟩
    rw [hlog, Nat.add_sub_cancel_left]

/-- A magnitude as a significand times a power of two. The significand has exactly 53 bits, unless
the power is one. -/
structure IsSignificand (units m j : Nat) : Prop where
  units_eq : units = m * 2 ^ j
  grain_eq : grain units = 2 ^ j
  div_eq : units / grain units = m
  bits : m < 2 ^ 53
  full : j = 0 ∨ 2 ^ 52 ≤ m

theorem exists_significand (h : units % grain units = 0) : ∃ m j, IsSignificand units m j := by
  refine ⟨units / grain units, units.log2 - 52, ?_, grain_eq units, rfl, div_grain_lt units, ?_⟩
  · rw [← grain_eq, Nat.div_mul_cancel (Nat.dvd_of_mod_eq_zero h)]
  · by_cases hlog : units.log2 ≤ 52
    · exact .inl (Nat.sub_eq_zero_of_le hlog)
    · refine .inr ?_
      rw [grain_eq, Nat.le_div_iff_mul_le (Nat.two_pow_pos _), ← Nat.pow_add,
        Nat.add_sub_cancel' (by omega)]
      refine Nat.log2_self_le fun hzero => hlog ?_
      rw [hzero]
      decide

theorem IsSignificand.next_le {m j : Nat} (h : IsSignificand units m j) :
    units + 2 ^ j ≤ 2 ^ 53 * 2 ^ j := by
  calc units + 2 ^ j = (m + 1) * 2 ^ j := by rw [h.units_eq, Nat.add_mul, Nat.one_mul]
    _ ≤ 2 ^ 53 * 2 ^ j := Nat.mul_le_mul_right _ h.bits

-- ---------------------------------------------------------------------------
-- The interval of a double
-- ---------------------------------------------------------------------------

/-- The magnitudes, in units, that round to a double. -/
def RoundsTo (units : Nat) (q : ℚ) : Prop :=
  if units / grain units % 2 = 0 then
    units - (lowerGap units : ℚ) / 2 ≤ q ∧ q ≤ units + (grain units : ℚ) / 2
  else units - (lowerGap units : ℚ) / 2 < q ∧ q < units + (grain units : ℚ) / 2

theorem RoundsTo.low {q : ℚ} (h : RoundsTo units q) :
    units - (lowerGap units : ℚ) / 2 ≤ q := by
  unfold RoundsTo at h
  split at h
  · exact h.1
  · exact h.1.le

theorem RoundsTo.high {q : ℚ} (h : RoundsTo units q) : q ≤ units + (grain units : ℚ) / 2 := by
  unfold RoundsTo at h
  split at h
  · exact h.2
  · exact h.2.le

/-- The interval of a double in whole numbers. -/
theorem roundsTo_div_iff (hden : 0 < den) : RoundsTo units ((num : ℚ) / den) ↔
    if units / grain units % 2 = 0 then
      2 * units * den ≤ 2 * num + lowerGap units * den ∧
        2 * num ≤ 2 * units * den + grain units * den
    else
      2 * units * den < 2 * num + lowerGap units * den ∧
        2 * num < 2 * units * den + grain units * den := by
  have hden : (0 : ℚ) < den := Nat.cast_pos.mpr hden
  unfold RoundsTo
  rw [le_div_iff₀ hden, div_le_iff₀ hden, lt_div_iff₀ hden, div_lt_iff₀ hden]
  have hlow : (units - (lowerGap units : ℚ) / 2) * den =
      (2 * units * den - lowerGap units * den) / 2 := by ring
  have hhigh : (units + (grain units : ℚ) / 2) * den =
      (2 * units * den + grain units * den) / 2 := by ring
  rw [hlow, hhigh, div_le_iff₀ two_pos, le_div_iff₀ two_pos, div_lt_iff₀ two_pos,
    lt_div_iff₀ two_pos, sub_le_iff_le_add, sub_lt_iff_lt_add, mul_comm (num : ℚ) 2]
  norm_cast

theorem roundsTo_div_of_lt (hden : 0 < den)
    (hlow : 2 * units * den < 2 * num + lowerGap units * den)
    (hhigh : 2 * num < 2 * units * den + grain units * den) :
    RoundsTo units ((num : ℚ) / den) := by
  rw [roundsTo_div_iff hden]
  split
  · exact ⟨hlow.le, hhigh.le⟩
  · exact ⟨hlow, hhigh⟩

-- ---------------------------------------------------------------------------
-- Rounding
-- ---------------------------------------------------------------------------

/-- A quotient within half of a whole number is rounded to it, at a tie if it is even. -/
theorem nearest_eq {c : Nat} (hden : 0 < den) (hlow : 2 * (c * den) ≤ 2 * num + den)
    (hhigh : 2 * num ≤ 2 * (c * den) + den)
    (htie : c % 2 = 1 → 2 * (c * den) < 2 * num + den ∧ 2 * num < 2 * (c * den) + den) :
    nearest num den = c := by
  have hdiv := Nat.div_add_mod num den
  have hmod := Nat.mod_lt num hden
  have hc : c = num / den ∨ c = num / den + 1 := by
    have hle : c < num / den + 2 := by
      refine Nat.lt_of_mul_lt_mul_right (a := den) ?_
      rw [Nat.add_mul, Nat.mul_comm (num / den)]
      omega
    have hge : num / den < c + 1 := by
      refine Nat.lt_of_mul_lt_mul_right (a := den) ?_
      rw [Nat.add_mul, Nat.mul_comm (num / den)]
      omega
    omega
  unfold nearest
  dsimp only
  generalize num / den = q at *
  generalize num % den = r at *
  rcases hc with rfl | rfl
  · rw [Nat.mul_comm c den] at *
    split <;> omega
  · rw [Nat.add_mul, Nat.mul_comm q den] at *
    split <;> omega

theorem ofUnits_of_grain {γ c : Nat} (negative : Bool) (h : Representable units)
    (hden : 0 < den) (hγ : grain (num / den) = γ) (hpos : 0 < γ) (hunits : units = c * γ)
    (hlow : 2 * units * den ≤ 2 * num + γ * den) (hhigh : 2 * num ≤ 2 * units * den + γ * den)
    (htie : c % 2 = 1 → 2 * units * den < 2 * num + γ * den ∧
      2 * num < 2 * units * den + γ * den) :
    ofUnits negative num den = .finite negative units h := by
  have hnearest : nearest num (den * γ) = c := by
    have hscaled : 2 * (c * (den * γ)) = 2 * units * den := by
      rw [hunits]
      ring
    refine nearest_eq (Nat.mul_pos hden hpos) ?_ ?_ ?_ <;> rw [hscaled, Nat.mul_comm den γ] <;>
      assumption
  rw [ofUnits, hγ, hnearest, ← hunits, ofRounded_eq h]

theorem le_floor {gap : Nat} (hden : 0 < den)
    (h : 2 * units * den ≤ 2 * num + gap * den) : 2 * units ≤ 2 * (num / den) + 1 + gap := by
  have hceil : num < (num / den + 1) * den := by
    rw [Nat.mul_comm]
    exact Nat.lt_mul_div_succ num hden
  have hlt : 2 * units * den < (2 * (num / den) + 2 + gap) * den := by
    calc 2 * units * den ≤ 2 * num + gap * den := h
      _ < 2 * ((num / den + 1) * den) + gap * den := by omega
      _ = (2 * (num / den) + 2 + gap) * den := by ring
  have := Nat.lt_of_mul_lt_mul_right hlt
  omega

theorem floor_le {gap : Nat} (hden : 0 < den)
    (h : 2 * num ≤ 2 * units * den + gap * den) : 2 * (num / den) ≤ 2 * units + gap := by
  have hfloor := Nat.div_mul_le_self num den
  refine Nat.le_of_mul_le_mul_right (c := den) ?_ hden
  calc 2 * (num / den) * den = 2 * (num / den * den) := Nat.mul_assoc ..
    _ ≤ 2 * num := Nat.mul_le_mul_left 2 hfloor
    _ ≤ (2 * units + gap) * den := by rwa [Nat.add_mul]

-- What lies in the interval of a double has the grain of the double, except just below a power of
-- two, where the grain is half as large.

theorem IsSignificand.grain_above {m j : Nat} (h : IsSignificand units m j) (hden : 0 < den)
    (hside : units * den ≤ num) (hhigh : 2 * num ≤ 2 * units * den + 2 ^ j * den) :
    grain (num / den) = 2 ^ j := by
  have hfloor : units ≤ num / den := (Nat.le_div_iff_mul_le hden).mpr hside
  have hceil := floor_le hden hhigh
  have hnext := h.next_le
  have hj := Nat.two_pow_pos j
  refine grain_of_between (h.full.imp_right fun hfull => ?_) (by omega)
  exact (Nat.mul_le_mul_right _ hfull).trans (h.units_eq ▸ hfloor)

theorem IsSignificand.grain_below {m j : Nat} (h : IsSignificand units m j) (hden : 0 < den)
    (hside : num < units * den) (hbinade : ¬ (m = 2 ^ 52 ∧ 1 < 2 ^ j))
    (hlow : 2 * units * den ≤ 2 * num + 2 ^ j * den) : grain (num / den) = 2 ^ j := by
  have hfloor : num / den < units := (Nat.div_lt_iff_lt_mul hden).mpr hside
  have hceil := le_floor hden hlow
  have hnext := h.next_le
  refine grain_of_between (or_iff_not_imp_left.mpr fun hzero => ?_) (by omega)
  have hsucc : 2 ^ 52 + 1 ≤ m :=
    Nat.lt_of_le_of_ne (h.full.resolve_left hzero) fun heq =>
      hbinade ⟨heq.symm, Nat.one_lt_two_pow hzero⟩
  have hunits : (2 ^ 52 + 1) * 2 ^ j ≤ units := h.units_eq ▸ Nat.mul_le_mul_right _ hsucc
  omega

theorem grain_below_binade {i : Nat} (hunits : units = 2 ^ 53 * 2 ^ i) (hden : 0 < den)
    (hside : num < units * den) (hlow : 2 * units * den ≤ 2 * num + 2 ^ i * den) :
    grain (num / den) = 2 ^ i := by
  have hfloor : num / den < units := (Nat.div_lt_iff_lt_mul hden).mpr hside
  have hceil := le_floor hden hlow
  have hi := Nat.two_pow_pos i
  exact grain_of_between (.inr (by omega)) (by omega)

/-- Rounding finds the double in whose interval a quotient lies. -/
theorem ofUnits_of_roundsTo (negative : Bool) (h : Representable units) (hden : 0 < den)
    (hrounds : RoundsTo units ((num : ℚ) / den)) :
    ofUnits negative num den = .finite negative units h := by
  obtain ⟨m, j, hm⟩ := exists_significand h.2
  have hj : 0 < 2 ^ j := Nat.two_pow_pos j
  have hgrains : 0 < 2 ^ j * den := Nat.mul_pos hj hden
  rw [roundsTo_div_iff hden, hm.div_eq, hm.grain_eq] at hrounds
  have hassoc : 2 * units * den = 2 * (units * den) := Nat.mul_assoc ..
  rcases Nat.lt_or_ge num (units * den) with hside | hside
  · have hlow : 2 * units * den ≤ 2 * num + lowerGap units * den := by
      split at hrounds <;> omega
    rw [lowerGap, hm.div_eq, hm.grain_eq] at hrounds hlow
    by_cases hbinade : m = Nat.pow 2 52 ∧ 1 < 2 ^ j
    · rw [if_pos hbinade] at hlow
      obtain ⟨rfl, hone⟩ := hbinade
      obtain ⟨i, rfl⟩ : ∃ i, j = i + 1 := Nat.exists_eq_succ_of_ne_zero fun hzero => by
        rw [hzero] at hone
        exact absurd hone (by decide)
      have hhalf : 2 ^ (i + 1) / 2 = 2 ^ i := by omega
      have hunits : units = 2 ^ 53 * 2 ^ i := by
        rw [hm.units_eq, Nat.pow_succ]
        change 2 ^ 52 * _ = _
        omega
      rw [hhalf] at hlow
      exact ofUnits_of_grain negative h hden (grain_below_binade hunits hden hside hlow)
        (Nat.two_pow_pos i) hunits hlow (by omega) fun hodd => absurd hodd (by decide)
    · rw [if_neg hbinade] at hrounds hlow
      have hkept := hm.grain_below hden hside hbinade hlow
      refine ofUnits_of_grain negative h hden hkept hj hm.units_eq hlow (by omega) fun hodd => ?_
      rw [if_neg (by omega)] at hrounds
      omega
  · have hhigh : 2 * num ≤ 2 * units * den + 2 ^ j * den := by
      split at hrounds <;> omega
    have hkept := hm.grain_above hden hside hhigh
    refine ofUnits_of_grain negative h hden hkept hj hm.units_eq (by omega) hhigh fun hodd => ?_
    rw [if_neg (by omega)] at hrounds
    omega

-- ---------------------------------------------------------------------------
-- Integers that have a double
-- ---------------------------------------------------------------------------

theorem isSome_bounded?_ofRounded (negative : Bool) (units : Nat) :
    (ofRounded negative units).bounded?.isSome = true ↔ Representable units := by
  unfold ofRounded
  split
  · exact iff_of_true rfl ‹_›
  · exact iff_of_false Bool.false_ne_true ‹_›

/-- With 53 bits in front of the grain, only the last half of a grain is rounded up to the next
power of two. -/
theorem nearest_lt_iff {half : Nat} (hhalf : 0 < half) (hnum : num < 2 ^ 53 * (2 * half)) :
    nearest num (2 * half) < 2 ^ 53 ↔ num + half < 2 ^ 53 * (2 * half) := by
  have hdiv := Nat.div_add_mod num (2 * half)
  have hmod := Nat.mod_lt num (Nat.mul_pos two_pos hhalf)
  have hquotient : num / (2 * half) < 2 ^ 53 := (Nat.div_lt_iff_lt_mul (by omega)).mpr hnum
  unfold nearest
  dsimp only
  generalize num / (2 * half) = q at *
  generalize num % (2 * half) = r at *
  by_cases hlast : q = 2 ^ 53 - 1
  · subst hlast
    split <;> omega
  · have hroom : 2 * half * q + 2 * half ≤ 2 * half * (2 ^ 53 - 1) := by
      calc 2 * half * q + 2 * half = 2 * half * (q + 1) := by ring
        _ ≤ 2 * half * (2 ^ 53 - 1) := Nat.mul_le_mul_left _ (by omega)
    split <;> omega

theorem nearest_grain_le (num : Nat) : nearest num (grain num) ≤ 2 ^ 53 :=
  Nat.le_trans (nearest_le num _) (div_grain_lt num)

theorem le_nearest_mul_grain (h : 52 ≤ num.log2) :
    2 ^ num.log2 ≤ nearest num (grain num) * grain num := by
  have hzero : num ≠ 0 := by
    rintro rfl
    exact absurd h (by decide)
  have hquotient : 2 ^ 52 ≤ num / grain num := by
    rw [grain_eq, Nat.le_div_iff_mul_le (Nat.two_pow_pos _), ← Nat.pow_add,
      Nat.add_sub_cancel' h]
    exact Nat.log2_self_le hzero
  have hnearest : num / grain num ≤ nearest num (grain num) := by
    unfold nearest
    dsimp only
    split <;> omega
  calc 2 ^ num.log2 = 2 ^ 52 * grain num := by rw [grain_eq, ← Nat.pow_add, Nat.add_sub_cancel' h]
    _ ≤ nearest num (grain num) * grain num :=
      Nat.mul_le_mul_right _ (Nat.le_trans hquotient hnearest)

/-- Rounding stays below the limit up to half a grain in front of it. -/
theorem representable_nearest_iff {bits : Nat} (hbits : limitBits = bits + 54) (num : Nat) :
    Representable (nearest num (grain num) * grain num) ↔ num + 2 ^ bits < limit := by
  have hlimit : limit = 2 ^ 53 * (2 * 2 ^ bits) := by
    rw [limit_eq, hbits, ← Nat.pow_succ', ← Nat.pow_add]
    congr 1
    omega
  have hpos := Nat.two_pow_pos bits
  have hdvd : nearest num (grain num) * grain num % grain (nearest num (grain num) * grain num) =
      0 := by
    rw [grain_eq num]
    exact Nat.mod_eq_zero_of_dvd (grain_dvd_mul_two_pow (grain_eq num ▸ nearest_grain_le num) _)
  rw [Representable, and_iff_left hdvd]
  rcases Nat.lt_or_ge num limit with hbelow | habove
  · rcases Nat.lt_or_ge num (2 ^ 52 * (2 * 2 ^ bits)) with hsmall | hlarge
    · -- One bit less leaves room for rounding up.
      have hgrain : grain num ≤ 2 ^ bits := by
        by_cases hzero : num = 0
        · rw [hzero]
          exact hpos
        · have hlog : num.log2 < 53 + bits := by
            rw [Nat.log2_lt hzero, Nat.pow_add]
            omega
          rw [grain_eq]
          exact Nat.pow_le_pow_right two_pos (by omega)
      have hproduct := Nat.mul_le_mul (nearest_grain_le num) hgrain
      exact iff_of_true (by omega) (by omega)
    · have hgrain : grain num = 2 * 2 ^ bits := by
        rw [← Nat.pow_succ'] at hlarge hlimit ⊢
        exact grain_of_between (.inr hlarge) (hlimit ▸ hbelow)
      rw [hlimit] at hbelow ⊢
      rw [hgrain, ← nearest_lt_iff hpos hbelow, Nat.mul_lt_mul_right (by omega)]
  · have hlog : limitBits ≤ num.log2 := by
      have hzero : num ≠ 0 := by omega
      rwa [Nat.le_log2 hzero, ← limit_eq]
    have hle : limit ≤ nearest num (grain num) * grain num := by
      calc limit = 2 ^ limitBits := limit_eq
        _ ≤ 2 ^ num.log2 := Nat.pow_le_pow_right (by decide) hlog
        _ ≤ nearest num (grain num) * grain num := le_nearest_mul_grain (by omega)
    exact iff_of_false (by omega) (by omega)

/-- The least magnitude of an integer without a double: halfway from the largest double to the power
of two behind it. -/
def intLimit : Nat := 2 ^ (limitBits - unitBits) - 2 ^ (limitBits - unitBits - 54)

theorem intLimit_mul_unitsPerOne {bits : Nat} (hbits : limitBits = bits + 54) :
    intLimit * unitsPerOne + 2 ^ bits = limit := by
  obtain ⟨k, rfl⟩ : ∃ k, bits = unitBits + k := ⟨bits - unitBits, by
    have : unitBits ≤ limitBits - 54 := by decide
    omega⟩
  have hlimit : 2 ^ (54 + k) * 2 ^ unitBits = 2 ^ (unitBits + k + 54) := by
    rw [← Nat.pow_add]
    congr 1
    omega
  have hhalf : 2 ^ k * 2 ^ unitBits = 2 ^ (unitBits + k) := by rw [← Nat.pow_add, Nat.add_comm]
  have hle : 2 ^ (unitBits + k) ≤ 2 ^ (unitBits + k + 54) :=
    Nat.pow_le_pow_right two_pos (Nat.le_add_right _ _)
  have hexponent : unitBits + k + 54 - unitBits = 54 + k := by omega
  rw [intLimit, unitsPerOne_eq, limit_eq, hbits, hexponent, Nat.add_sub_cancel_left, Nat.sub_mul,
    hlimit, hhalf, Nat.sub_add_cancel hle]

theorem isSome_ofInt?_iff {n : Int} : (ofInt? n).isSome = true ↔ n.natAbs < intLimit := by
  obtain ⟨bits, hbits⟩ : ∃ bits, limitBits = bits + 54 := ⟨limitBits - 54, rfl⟩
  have hlimit := intLimit_mul_unitsPerOne hbits
  rw [ofInt?, ofUnits, isSome_bounded?_ofRounded, Nat.div_one, Nat.one_mul,
    representable_nearest_iff hbits, ← hlimit, Nat.add_lt_add_iff_right,
    Nat.mul_lt_mul_right unitsPerOne_pos]

example : intLimit = 2 ^ 1024 - 2 ^ 970 := by decide +kernel

end Bitemporal.Binary64
