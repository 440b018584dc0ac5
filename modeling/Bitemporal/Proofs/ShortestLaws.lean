import Mathlib.Tactic.NormNum
import Bitemporal.Proofs.NumeralLaws
import Bitemporal.Proofs.RoundingLaws

/-!
# The shortest digits read back

Seventeen digits are enough: on the grid of seventeen digits two neighbours are less than the
distance of doubles apart, so one of the two around a double rounds to it. So the search for the
shortest digits ends with a decimal in the interval of the double, and reading rounds it back.
-/

namespace Bitemporal.Binary64

variable {units digits : Nat} {k e : Int}

-- ---------------------------------------------------------------------------
-- Powers of ten
-- ---------------------------------------------------------------------------

theorem scale_eq (a b : Nat) (k : Int) :
    scale a b k = (a * 10 ^ k.toNat, b * 10 ^ (-k).toNat) := by
  unfold scale
  split
  · have hneg : (-k).toNat = 0 := by omega
    rw [hneg, Nat.pow_zero, Nat.mul_one]
    rfl
  · have hpos : k.toNat = 0 := by omega
    rw [hpos, Nat.pow_zero, Nat.mul_one]
    rfl

theorem ten_zpow (k : Int) :
    (10 : ℚ) ^ k = ((10 ^ k.toNat : Nat) : ℚ) / (10 ^ (-k).toNat : Nat) := by
  rcases Int.le_total 0 k with h | h
  · obtain ⟨n, rfl⟩ := Int.eq_ofNat_of_zero_le h
    simp
  · obtain ⟨n, hn⟩ := Int.eq_ofNat_of_zero_le (Int.neg_nonneg_of_nonpos h)
    obtain rfl : k = -n := by omega
    simp

-- ---------------------------------------------------------------------------
-- Decimals in the interval of a double
-- ---------------------------------------------------------------------------

def decimal (digits : Nat) (k : Int) : ℚ := digits * 10 ^ k * unitsPerOne

theorem decimal_eq (digits : Nat) (k : Int) :
    decimal digits k =
      ((digits * unitsPerOne * 10 ^ k.toNat : Nat) : ℚ) / (10 ^ (-k).toNat : Nat) := by
  rw [decimal, ten_zpow, Nat.cast_mul, Nat.cast_mul]
  ring

theorem lowerGap_le (hpos : 0 < units) (h : units % grain units = 0) : lowerGap units ≤ units := by
  have hgrain : grain units ≤ units := Nat.le_of_dvd hpos (Nat.dvd_of_mod_eq_zero h)
  unfold lowerGap
  split <;> omega

theorem readsBack_iff (hpos : 0 < units) (h : units % grain units = 0) :
    readsBack units digits k = true ↔ RoundsTo units (decimal digits k) := by
  have hgap := lowerGap_le hpos h
  have hvalue : digits * (2 * unitsPerOne) * 10 ^ k.toNat =
      2 * (digits * unitsPerOne * 10 ^ k.toNat) := by ring
  rw [decimal_eq, roundsTo_div_iff (Nat.pow_pos (by decide)), readsBack, scale_eq]
  simp only [Nat.one_mul, hvalue, Nat.sub_mul, Nat.add_mul]
  split <;> simp only [Bool.and_eq_true, decide_eq_true_eq, Nat.sub_le_iff_le_add]
  have := Nat.mul_le_mul_right (10 ^ (-k).toNat) (show lowerGap units ≤ 2 * units by omega)
  rw [Nat.sub_lt_iff_lt_add' this, Nat.add_comm]

theorem decimal_le_iff : decimal digits k ≤ units ↔
    digits * unitsPerOne * 10 ^ k.toNat ≤ units * 10 ^ (-k).toNat := by
  rw [decimal_eq, div_le_iff₀ (Nat.cast_pos.mpr (Nat.pow_pos (by decide))), ← Nat.cast_mul,
    Nat.cast_le]

theorem decimal_lt_iff : decimal digits k < units ↔
    digits * unitsPerOne * 10 ^ k.toNat < units * 10 ^ (-k).toNat := by
  rw [decimal_eq, div_lt_iff₀ (Nat.cast_pos.mpr (Nat.pow_pos (by decide))), ← Nat.cast_mul,
    Nat.cast_lt]

theorem decimal_add (digits : Nat) (k : Int) (n : Nat) :
    decimal digits (k + n) = decimal (digits * 10 ^ n) k := by
  rw [decimal, decimal, zpow_add₀ (by norm_num), zpow_natCast]
  push_cast
  ring

-- ---------------------------------------------------------------------------
-- Decimal exponents
-- ---------------------------------------------------------------------------

/-- The estimated exponent of a power of two is below its decimal logarithm. -/
theorem ten_zpow_le_two_zpow {b : Int} (hlow : -1074 ≤ b) (hhigh : b < 1024) :
    (10 : ℚ) ^ (b * 30103 / 100000 - 2) ≤ 2 ^ b := by
  generalize hs : b * 30103 / 100000 - 2 = s
  -- The slope lies between those of 10³ ≤ 2¹⁰, for positive exponents, and 2⁹³ ≤ 10²⁸, for others.
  rcases Int.le_total 0 b with hb | hb
  · obtain ⟨n, rfl⟩ := Int.eq_ofNat_of_zero_le hb
    rcases Int.le_total 0 s with hs' | hs'
    · obtain ⟨m, rfl⟩ := Int.eq_ofNat_of_zero_le hs'
      have hpow : (10 ^ m) ^ 3 ≤ (2 ^ n) ^ 3 := by
        calc (10 ^ m) ^ 3 = (10 ^ 3) ^ m := by rw [← Nat.pow_mul, ← Nat.pow_mul, Nat.mul_comm]
          _ ≤ (2 ^ 10) ^ m := Nat.pow_le_pow_left (by decide) m
          _ = 2 ^ (10 * m) := (Nat.pow_mul ..).symm
          _ ≤ 2 ^ (n * 3) := Nat.pow_le_pow_right (by decide) (by omega)
          _ = (2 ^ n) ^ 3 := Nat.pow_mul ..
      have := (Nat.pow_le_pow_iff_left (by decide)).mp hpow
      exact_mod_cast this
    · calc (10 : ℚ) ^ s ≤ 1 := zpow_le_one_of_nonpos₀ (by norm_num) hs'
        _ ≤ 2 ^ (n : Int) := one_le_zpow₀ (by norm_num) hb
  · obtain ⟨n, hn⟩ := Int.eq_ofNat_of_zero_le (Int.neg_nonneg_of_nonpos hb)
    obtain ⟨m, hm⟩ : ∃ m : Nat, -s = m := Int.eq_ofNat_of_zero_le (by omega)
    obtain rfl : b = -n := by omega
    obtain rfl : s = -m := by omega
    have hpow : (2 ^ n) ^ 93 ≤ (10 ^ m) ^ 93 := by
      calc (2 ^ n) ^ 93 = (2 ^ 93) ^ n := by rw [← Nat.pow_mul, ← Nat.pow_mul, Nat.mul_comm]
        _ ≤ (10 ^ 28) ^ n := Nat.pow_le_pow_left (by decide) n
        _ = 10 ^ (28 * n) := (Nat.pow_mul ..).symm
        _ ≤ 10 ^ (m * 93) := Nat.pow_le_pow_right (by decide) (by omega)
        _ = (10 ^ m) ^ 93 := Nat.pow_mul ..
    have hle := (Nat.pow_le_pow_iff_left (by decide)).mp hpow
    rw [zpow_neg, zpow_neg]
    exact inv_anti₀ (zpow_pos two_pos _) (by exact_mod_cast hle)

theorem exponentEstimate_le (hpos : 0 < units) (hlimit : units < limit) :
    decimal 1 (exponentEstimate units - 1) ≤ units := by
  have hlog : units.log2 < limitBits := (Nat.log2_lt hpos.ne').mpr (limit_eq ▸ hlimit)
  have hlimitBits : limitBits = 2098 := rfl
  have hunitBits : ((1074 : Int)) = (unitBits : Nat) := rfl
  have hten := ten_zpow_le_two_zpow (b := (units.log2 : Int) - 1074) (by omega) (by omega)
  have hexponent : exponentEstimate units - 1 =
      ((units.log2 : Int) - 1074) * 30103 / 100000 - 2 := by
    rw [exponentEstimate]
    omega
  have hself : ((2 ^ units.log2 : Nat) : ℚ) ≤ units := Nat.cast_le.mpr (Nat.log2_self_le hpos.ne')
  calc decimal 1 (exponentEstimate units - 1)
      = 10 ^ (((units.log2 : Int) - 1074) * 30103 / 100000 - 2) * unitsPerOne := by
        rw [decimal, hexponent, Nat.cast_one, one_mul]
    _ ≤ 2 ^ ((units.log2 : Int) - 1074) * unitsPerOne :=
        mul_le_mul_of_nonneg_right hten (Nat.cast_nonneg _)
    _ = ((2 ^ units.log2 : Nat) : ℚ) := by
        rw [unitsPerOne_eq, hunitBits, Nat.cast_pow, Nat.cast_pow, Nat.cast_ofNat,
          ← zpow_natCast, ← zpow_natCast, ← zpow_add₀ two_ne_zero, Int.sub_add_cancel]
    _ ≤ units := hself

theorem decimalExponent_le (fuel : Nat) (h : decimal 1 (e - 1) ≤ units) :
    decimal 1 (decimalExponent units fuel e - 1) ≤ units := by
  induction fuel generalizing e with
  | zero => exact h
  | succ fuel ih =>
    rw [decimalExponent, scale_eq]
    dsimp only
    split
    · exact h
    · refine ih ?_
      rw [Int.add_sub_cancel, decimal_le_iff, Nat.one_mul]
      omega

-- ---------------------------------------------------------------------------
-- Decimal grids
-- ---------------------------------------------------------------------------

theorem onGrid?_readsBack (h : onGrid? units k = some digits) :
    readsBack units digits k = true := by
  rw [onGrid?, scale_eq] at h
  dsimp only at h
  generalize units * 10 ^ (-k).toNat / (unitsPerOne * 10 ^ k.toNat) = below at h
  generalize hlow : readsBack units below k = low at h
  generalize hhigh : readsBack units (below + 1) k = high at h
  cases low <;> cases high <;> dsimp only at h
  · cases h
  · exact Option.some.inj h ▸ hhigh
  · exact Option.some.inj h ▸ hlow
  · split at h
    · exact Option.some.inj h ▸ hlow
    · exact Option.some.inj h ▸ hhigh

theorem onGrid?_isSome {below : Nat}
    (hbelow : units * 10 ^ (-k).toNat / (unitsPerOne * 10 ^ k.toNat) = below)
    (h : readsBack units below k = true ∨ readsBack units (below + 1) k = true) :
    (onGrid? units k).isSome = true := by
  rw [onGrid?, scale_eq]
  dsimp only
  rw [hbelow]
  split
  · simp_all
  · rfl
  · rfl
  · split <;> rfl

/-- Of two neighbours on a grid around a double, one rounds to it if the grid is fine enough. -/
theorem roundsTo_neighbour {one grid below rest : Nat} (h : units % grain units = 0)
    (hone : 0 < one) (hrest : rest < grid) (hunits : units * one = below * grid + rest)
    (hfine : 10 ^ 16 * grid ≤ units * one) :
    RoundsTo units (((below * grid : Nat) : ℚ) / one) ∨
      RoundsTo units ((((below + 1) * grid : Nat) : ℚ) / one) := by
  have hsum := Nat.add_one_mul below grid
  obtain ⟨m, j, hm⟩ := exists_significand h
  have hscaled : units * one = m * (2 ^ j * one) := by rw [hm.units_eq, Nat.mul_assoc]
  have hbits : m * (2 ^ j * one) < 2 ^ 53 * (2 ^ j * one) :=
    Nat.mul_lt_mul_of_pos_right hm.bits (Nat.mul_pos (Nat.two_pow_pos j) hone)
  have hgap : 0 < grain units * one := Nat.mul_pos (grain_pos units) hone
  have hbelow : 2 * rest < lowerGap units * one →
      RoundsTo units (((below * grid : Nat) : ℚ) / one) := fun hrest =>
    roundsTo_div_of_lt hone (by rw [Nat.mul_assoc]; omega) (by rw [Nat.mul_assoc]; omega)
  have habove : 2 * (grid - rest) < grain units * one →
      RoundsTo units ((((below + 1) * grid : Nat) : ℚ) / one) := fun hrest =>
    roundsTo_div_of_lt hone (by rw [Nat.mul_assoc]; omega) (by rw [Nat.mul_assoc]; omega)
  rw [hm.grain_eq] at habove
  by_cases hbinade : units / grain units = Nat.pow 2 52 ∧ 1 < grain units
  · -- A power of two has the smallest significand, so the grid is twice as fine for its grain.
    have hfirst : m = 2 ^ 52 := hm.div_eq.symm.trans hbinade.1
    rw [hfirst] at hscaled
    exact .inr (habove (by omega))
  · rw [lowerGap, if_neg hbinade, hm.grain_eq] at hbelow
    by_cases hside : 2 * rest < 2 ^ j * one
    · exact .inl (hbelow hside)
    · exact .inr (habove (by omega))

/-- One of the neighbours on the grid of seventeen digits reads back. -/
theorem onGrid?_seventeen (h : units % grain units = 0) (hpos : 0 < units)
    (hk : decimal 1 (k + 16) ≤ units) : (onGrid? units k).isSome = true := by
  have hone : 0 < 10 ^ (-k).toNat := Nat.pow_pos (by decide)
  have hgrid : 0 < unitsPerOne * 10 ^ k.toNat :=
    Nat.mul_pos unitsPerOne_pos (Nat.pow_pos (by decide))
  have hfine := decimal_le_iff.mp (decimal_add 1 k 16 ▸ hk)
  refine onGrid?_isSome rfl ?_
  simp only [readsBack_iff hpos h, decimal_eq]
  rw [Nat.mul_assoc] at hfine
  simp only [Nat.mul_assoc _ unitsPerOne]
  generalize 10 ^ (-k).toNat = one at *
  generalize unitsPerOne * 10 ^ k.toNat = grid at *
  exact roundsTo_neighbour h hone (Nat.mod_lt _ hgrid) (Nat.div_add_mod' ..).symm
    (by rwa [Nat.one_mul] at hfine)

-- ---------------------------------------------------------------------------
-- The search for the shortest digits
-- ---------------------------------------------------------------------------

/-- The search ends where a grid has digits that read back. -/
theorem shortestFrom_readsBack {fuel count n : Nat} (hcount : count ≤ n) (hfuel : n < count + fuel)
    (h : (onGrid? units (e - n)).isSome = true) :
    readsBack units (shortestFrom units e fuel count).1 (shortestFrom units e fuel count).2 =
      true := by
  induction fuel generalizing count with
  | zero => omega
  | succ fuel ih =>
    rw [shortestFrom]
    split
    case h_1 digits hdigits => exact onGrid?_readsBack hdigits
    -- The search goes past a grid without digits, and there are digits on the grid of `n`.
    case h_2 hnone =>
      have hne : count ≠ n := by
        rintro rfl
        rw [hnone] at h
        cases h
      exact ih (by omega) (by omega)

theorem shortest_readsBack (h : Representable units) (hpos : 0 < units) :
    RoundsTo units (decimal (shortest units).1 (shortest units).2) := by
  have hexponent := decimalExponent_le 4 (exponentEstimate_le hpos h.1)
  rw [← readsBack_iff hpos h.2, shortest]
  refine shortestFrom_readsBack (n := 17) (by decide) (by decide) ?_
  refine onGrid?_seventeen h.2 hpos ?_
  convert hexponent using 2
  omega

theorem dropZeros_decimal (fuel digits : Nat) (k : Int) :
    decimal (dropZeros fuel digits k).1 (dropZeros fuel digits k).2 = decimal digits k := by
  induction fuel generalizing digits k with
  | zero => rfl
  | succ fuel ih =>
    rw [dropZeros]
    split
    · rename_i h
      rw [ih, show k + 1 = k + (1 : Nat) from rfl, decimal_add, Nat.pow_one,
        Nat.div_mul_cancel (Nat.dvd_of_mod_eq_zero h.2)]
    · rfl

-- ---------------------------------------------------------------------------
-- Reading
-- ---------------------------------------------------------------------------

theorem decimal_mono {d : Nat} (h : d ≤ digits) : decimal d k ≤ decimal digits k :=
  mul_le_mul_of_nonneg_right (mul_le_mul_of_nonneg_right (Nat.cast_le.mpr h)
    (zpow_pos (by norm_num) k).le) (Nat.cast_nonneg _)

theorem decimal_mono_exponent {i : Int} (h : i ≤ k) : decimal digits i ≤ decimal digits k :=
  mul_le_mul_of_nonneg_right (mul_le_mul_of_nonneg_left (zpow_le_zpow_right₀ (by norm_num) h)
    (Nat.cast_nonneg _)) (Nat.cast_nonneg _)

-- The exponents are kept as names, so that the powers are not worked out.

theorem two_pow_lt_mul_ten_pow {a b n : Nat} (h : a < b + 3 * n) : 2 ^ a < 2 ^ b * 10 ^ n := by
  calc 2 ^ a < 2 ^ (b + 3 * n) := Nat.pow_lt_pow_right (by decide) h
    _ = 2 ^ b * (2 ^ 3) ^ n := by rw [Nat.pow_add, Nat.pow_mul]
    _ ≤ 2 ^ b * 10 ^ n := Nat.mul_le_mul_left _ (Nat.pow_le_pow_left (by decide) n)

theorem limit_lt_decimal {n : Nat} (h : limitBits + 1 < unitBits + 3 * n) :
    ((2 * limit : Nat) : ℚ) < decimal 1 n := by
  have hneg : (-(n : Int)).toNat = 0 := by omega
  rw [← not_le, decimal_le_iff, not_le, limit_eq, unitsPerOne_eq, hneg, Int.toNat_natCast,
    Nat.pow_zero, Nat.mul_one, Nat.one_mul, ← Nat.pow_succ']
  exact two_pow_lt_mul_ten_pow h

theorem decimal_lt_one {n : Nat} (h : unitBits + 1 < 3 * n) : decimal 2 (-n) < (1 : Nat) := by
  have hneg : (-(n : Int)).toNat = 0 := by omega
  have hpow : unitBits + 1 < 0 + 3 * n := by omega
  rw [decimal_lt_iff, unitsPerOne_eq, Int.neg_neg, Int.toNat_natCast, hneg, Nat.pow_zero,
    Nat.mul_one, ← Nat.pow_succ', Nat.one_mul]
  simpa using two_pow_lt_mul_ten_pow hpow

theorem ne_zero_of_roundsTo (h : Representable units) (hpos : 0 < units)
    (hrounds : RoundsTo units (decimal digits k)) : digits ≠ 0 := by
  have hone : (1 : ℚ) ≤ units := Nat.one_le_cast.mpr hpos
  have hgap : (lowerGap units : ℚ) ≤ units := Nat.cast_le.mpr (lowerGap_le hpos h.2)
  have hlow := hrounds.low
  rintro rfl
  rw [decimal, Nat.cast_zero, zero_mul, zero_mul] at hlow
  linarith

-- A decimal at which reading stops early is too large for every double or too small for any.

theorem digits_le_of_roundsTo (h : Representable units) (hpos : 0 < units)
    (hrounds : RoundsTo units (decimal digits k)) :
    ((Numeral.digits digits).length : Int) + k ≤ 400 := by
  by_contra hcount
  have hgrain : (grain units : ℚ) ≤ units :=
    Nat.cast_le.mpr (Nat.le_of_dvd hpos (Nat.dvd_of_mod_eq_zero h.2))
  have hlimit : (units : ℚ) ≤ limit := Nat.cast_le.mpr h.1.le
  have hhigh := hrounds.high
  have hdigits := ne_zero_of_roundsTo h hpos hrounds
  have hfar : decimal 1 (400 : Nat) ≤ decimal digits k := by
    calc decimal 1 (400 : Nat) ≤ decimal 1 (k + ((Numeral.digits digits).length - 1 : Nat)) :=
          decimal_mono_exponent (by omega)
      _ = decimal (1 * 10 ^ ((Numeral.digits digits).length - 1)) k := decimal_add ..
      _ ≤ decimal digits k := decimal_mono (by
          rw [Nat.one_mul]
          exact Numeral.pow_length_digits_le hdigits)
  have hbeyond := limit_lt_decimal (n := 400) (by decide)
  rw [Nat.cast_mul, Nat.cast_ofNat] at hbeyond
  linarith

theorem le_digits_of_roundsTo (h : Representable units) (hpos : 0 < units)
    (hrounds : RoundsTo units (decimal digits k)) :
    -400 ≤ ((Numeral.digits digits).length : Int) + k := by
  by_contra hcount
  have hone : (1 : ℚ) ≤ units := Nat.one_le_cast.mpr hpos
  have hgap : (lowerGap units : ℚ) ≤ units := Nat.cast_le.mpr (lowerGap_le hpos h.2)
  have hlow := hrounds.low
  have hnear : decimal (2 * digits) k < (1 : Nat) := by
    calc decimal (2 * digits) k
        ≤ decimal (2 * 10 ^ (Numeral.digits digits).length) k :=
          decimal_mono (Nat.mul_le_mul_left 2 (Numeral.lt_pow_length_digits digits).le)
      _ = decimal 2 (k + ((Numeral.digits digits).length : Nat)) := (decimal_add ..).symm
      _ ≤ decimal 2 (-(400 : Nat)) := decimal_mono_exponent (by omega)
      _ < (1 : Nat) := decimal_lt_one (by decide)
  have hdouble : decimal (2 * digits) k = 2 * decimal digits k := by
    rw [decimal, decimal, Nat.cast_mul, Nat.cast_ofNat]
    ring
  rw [hdouble, Nat.cast_one] at hnear
  linarith

/-- Reading a decimal in the interval of a double finds the double. -/
theorem ofDecimal_of_roundsTo (negative : Bool) (h : Representable units) (hpos : 0 < units)
    (hrounds : RoundsTo units (decimal digits k)) :
    ofDecimal negative digits k = .finite negative units h := by
  have hlength : (Numeral.natDigits digits).length = (Numeral.digits digits).length := by
    rw [Numeral.natDigits_eq, List.length_map]
  have hdigits := ne_zero_of_roundsTo h hpos hrounds
  have hfar := digits_le_of_roundsTo h hpos hrounds
  have hnear := le_digits_of_roundsTo h hpos hrounds
  rw [ofDecimal, if_neg hdigits, if_neg (by omega), if_neg (by omega), scale_eq]
  rw [decimal_eq] at hrounds
  exact ofUnits_of_roundsTo negative h (Nat.mul_pos Nat.one_pos (Nat.pow_pos (by decide)))
    (by rwa [Nat.one_mul])

end Bitemporal.Binary64
