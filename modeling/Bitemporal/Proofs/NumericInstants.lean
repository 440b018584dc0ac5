import Mathlib.Data.Rat.Floor
import Bitemporal.Proofs.Acceptance
import Bitemporal.Proofs.RoundingLaws

/-!
# Numbers as instants

A number is taken for an instant by its integer part, toward zero, and a mapper compares integer
parts with the epoch and with its open end. So a fraction in front of the epoch is admitted as the
epoch itself and one behind the open end as the open end, and an integer without a double is not
compared at all. `admitsExactly_iff` says that all other numbers are admitted by their exact value.
-/

namespace Bitemporal

-- ---------------------------------------------------------------------------
-- Integer parts
-- ---------------------------------------------------------------------------

/-- The integer part of a number. -/
def towardZero (q : ℚ) : Int := if 0 ≤ q then ⌊q⌋ else ⌈q⌉

section

variable {q : ℚ}

theorem towardZero_intCast (n : Int) : towardZero n = n := by
  unfold towardZero
  split
  · exact Int.floor_intCast n
  · exact Int.ceil_intCast n

theorem towardZero_of_nonneg (h : 0 ≤ q) : towardZero q = ⌊q⌋ := if_pos h

theorem towardZero_of_nonpos (h : q ≤ 0) : towardZero q = ⌈q⌉ := by
  unfold towardZero
  split
  case isTrue hnonneg =>
    obtain rfl : q = 0 := le_antisymm h hnonneg
    rw [Int.floor_zero, Int.ceil_zero]
  case isFalse => rfl

theorem towardZero_neg_iff : towardZero q < 0 ↔ q ≤ -1 := by
  rcases le_total q 0 with h | h
  · have hceil : ⌈q⌉ ≤ -1 ↔ q ≤ ((-1 : Int) : ℚ) := Int.ceil_le
    rw [towardZero_of_nonpos h, ← Int.le_sub_one_iff, zero_sub, hceil, Int.cast_neg, Int.cast_one]
  · have hfloor := Int.floor_nonneg.mpr h
    rw [towardZero_of_nonneg h]
    exact iff_of_false (not_lt.mpr hfloor) (by linarith)

theorem le_towardZero_iff {n : Int} (h : 0 < n) : n ≤ towardZero q ↔ n ≤ q := by
  have hpos : (0 : ℚ) < n := Int.cast_pos.mpr h
  rcases le_total q 0 with hq | hq
  · have hceil : ⌈q⌉ ≤ 0 := Int.ceil_le.mpr (by simpa using hq)
    rw [towardZero_of_nonpos hq]
    exact iff_of_false (by omega) (by linarith)
  · rw [towardZero_of_nonneg hq, Int.le_floor]

theorem towardZero_div (negative : Bool) (units den : Nat) :
    towardZero ((Binary64.signedUnits negative units : Int) / (den : ℚ)) =
      Binary64.signedUnits negative (units / den) := by
  have hfloor : ⌊(units / den : ℚ)⌋ = (units / den : Nat) := Rat.floor_natCast_div_natCast units den
  have hnonneg : (0 : ℚ) ≤ units / den := by positivity
  cases negative with
  | false => simpa [Binary64.signedUnits, towardZero_of_nonneg hnonneg] using hfloor
  | true =>
    have hneg : ((-(units : Int) : Int) : ℚ) / den = -(units / den : ℚ) := by
      push_cast
      ring
    simp only [Binary64.signedUnits, if_true]
    rw [hneg, towardZero_of_nonpos (by linarith), Int.ceil_neg, hfloor]

end

-- ---------------------------------------------------------------------------
-- Numbers among values
-- ---------------------------------------------------------------------------

namespace Value

/-- The exact number that a value is. -/
inductive Numeric : Value → ℚ → Prop
  | int (n : Int) : Numeric (.int n) n
  | float (negative : Bool) (units : Nat) (fits : Binary64.Representable units) :
      Numeric (.float (.finite negative units fits))
        ((Binary64.signedUnits negative units : Int) / (Binary64.unitsPerOne : ℚ))

/-- The value is no integer that has no double. -/
def Bounded : Value → Prop
  | .int n => n.natAbs < Binary64.intLimit
  | _ => True

end Value

namespace Value.Numeric

variable {v : Value} {q : ℚ}

theorem bounded_of_between (h : v.Numeric q) {k : Int} (hlow : k < q) (hhigh : q < k + 1) :
    v.Bounded := by
  cases h with
  | int n =>
    have hlow : k < n := Int.cast_lt.mp hlow
    have hhigh : n < k + 1 := by exact_mod_cast hhigh
    omega
  | float => trivial

/-- Integers without a double lie outside every range of instants. -/
theorem outside (h : v.Numeric q) (hv : ¬ v.Bounded) {now : Nat} (hnow : now ≤ nowMillis) :
    q < 0 ∨ now < q := by
  cases h with
  | int n =>
    have hlimit : nowMillis < Binary64.intLimit := by decide +kernel
    have hn : Binary64.intLimit ≤ n.natAbs := Nat.not_lt.mp hv
    have hout : n < 0 ∨ (now : Int) < n := by omega
    exact_mod_cast hout
  | float => exact absurd trivial hv

end Value.Numeric

namespace InstantFormat

variable {f : InstantFormat} {v : Value} {q : ℚ}

theorem read_numeric (f : InstantFormat) (h : v.Numeric q) (hbounded : v.Bounded) :
    f.read v = .ok (some (towardZero q)) := by
  cases h with
  | int n =>
    rw [read, if_pos (Binary64.isSome_ofInt?_iff.mpr hbounded), towardZero_intCast]
  | float negative units fits =>
    rw [towardZero_div]
    rfl

theorem read_unbounded (f : InstantFormat) (h : ¬ v.Bounded) : f.read v = .error .overflow := by
  cases v with
  | int n => rw [read, if_neg (mt Binary64.isSome_ofInt?_iff.mp h)]
  | _ => exact absurd trivial h

end InstantFormat

-- ---------------------------------------------------------------------------
-- Numbers that a mapper admits
-- ---------------------------------------------------------------------------

namespace BitemporalMapper

variable {m : BitemporalMapper} {v : Value} {t : Int} {q : ℚ}

/-- A number is admitted by its exact value: refused in front of the epoch and behind the mapper's
open end, and otherwise the instant of the last whole millisecond that is not later. -/
structure AdmitsExactly (m : BitemporalMapper) (v : Value) (q : ℚ) : Prop where
  early : (∃ e, m.readInstant v = .error (.input e) ∧ e.kind = .argument) ↔ q < 0
  late : (∃ e, m.readInstant v = .error (.input e) ∧ e.kind = .range) ↔ m.now < q
  last : m.readInstant v = .ok (some Instant.now) ↔ q = m.now
  between : 0 ≤ q → q < m.now →
    ∃ i, m.readInstant v = .ok (some i) ∧ (i.millis : Int) = ⌊q⌋

section

variable (hread : m.format.read v = .ok (some t))

include hread

/-- What becomes of a value that is read as a count: which error it is, and which instant. -/
theorem readInstant_cases :
    (t < 0 ∧ m.readInstant v = .error (.input (.negativeInstant t))) ∨
      (m.now < t ∧ m.readInstant v = .error (.input (.exceedsNow m.field t m.now))) ∨
      ∃ (n : Nat) (i : Instant), t = n ∧ n ≤ m.now ∧ i.millis = m.collapse n ∧
        m.readInstant v = .ok (some i) := by
  rcases Int.lt_or_le t 0 with hneg | hnonneg
  · exact .inl ⟨hneg, Refuses.readInstant (.negative hread hneg)⟩
  rcases Int.lt_or_le m.now t with hlate | hle
  · exact .inr (.inl ⟨hlate, Refuses.readInstant (.late hread hlate)⟩)
  · obtain ⟨n, rfl⟩ := Int.eq_ofNat_of_zero_le hnonneg
    have hreads : m.Reads v n := ⟨hread, Int.ofNat_le.mp hle⟩
    obtain ⟨i, hi⟩ := hreads.readInstant
    obtain ⟨k, hk, hmillis⟩ := readInstant_some_iff.mp hi
    obtain rfl := hreads.unique hk
    exact .inr (.inr ⟨n, i, rfl, hreads.2, hmillis, hi⟩)

theorem argument_iff : (∃ e, m.readInstant v = .error (.input e) ∧ e.kind = .argument) ↔ t < 0 := by
  rcases readInstant_cases hread with ⟨ht, h⟩ | ⟨ht, h⟩ | ⟨n, i, rfl, -, -, h⟩
  · exact iff_of_true ⟨_, h, rfl⟩ ht
  · simp only [h, Except.error.injEq, Error.input.injEq, exists_eq_left', InputError.kind,
      reduceCtorEq, false_iff]
    omega
  · simp [h]

theorem range_iff : (∃ e, m.readInstant v = .error (.input e) ∧ e.kind = .range) ↔ m.now < t := by
  rcases readInstant_cases hread with ⟨ht, h⟩ | ⟨ht, h⟩ | ⟨n, i, rfl, hle, -, h⟩
  · simp only [h, Except.error.injEq, Error.input.injEq, exists_eq_left', InputError.kind,
      reduceCtorEq, false_iff]
    omega
  · exact iff_of_true ⟨_, h, rfl⟩ ht
  · simp [h, hle]

theorem readInstant_ok_iff {n : Nat} (hn : n ≤ m.now) :
    (∃ i, m.readInstant v = .ok (some i) ∧ i.millis = m.collapse n) ↔ t = n := by
  rcases readInstant_cases hread with ⟨ht, h⟩ | ⟨ht, h⟩ | ⟨k, i, rfl, hle, hmillis, h⟩
  · simp only [h, reduceCtorEq, false_and, exists_false, false_iff]
    omega
  · simp only [h, reduceCtorEq, false_and, exists_false, false_iff]
    omega
  · simp only [h, Except.ok.injEq, Option.some.injEq, exists_eq_left', hmillis, Int.natCast_inj]
    have hkn := collapse_le_iff hle hn
    have hnk := collapse_le_iff hn hle
    omega

theorem readInstant_now_iff : m.readInstant v = .ok (some Instant.now) ↔ t = m.now := by
  have hnow : m.collapse m.now = nowMillis := if_pos rfl
  rw [← readInstant_ok_iff hread (Nat.le_refl _), hnow]
  constructor
  · intro h
    exact ⟨_, h, rfl⟩
  · rintro ⟨i, h, hmillis⟩
    rw [h, Instant.eq_now_of_isNow (decide_eq_true hmillis)]

/-- The bounds on exact values, as bounds on the counts that are read. -/
theorem admitsExactly_iff_of_read : m.AdmitsExactly v q ↔
    (t < 0 ↔ q < 0) ∧ (m.now < t ↔ (m.now : ℚ) < q) ∧ (t = m.now ↔ q = m.now) ∧
      (0 ≤ q → q < m.now → t = ⌊q⌋) := by
  have hbetween (h0 : 0 ≤ q) (hlt : q < m.now) :
      (∃ i, m.readInstant v = .ok (some i) ∧ (i.millis : Int) = ⌊q⌋) ↔ t = ⌊q⌋ := by
    obtain ⟨n, hn⟩ := Int.eq_ofNat_of_zero_le (Int.floor_nonneg.mpr h0)
    have hnow : n < m.now := by
      have := Int.floor_lt.mpr (by simpa using hlt : q < ((m.now : Int) : ℚ))
      omega
    have hcollapse : m.collapse n = n := if_neg (Nat.ne_of_lt hnow)
    rw [hn, ← readInstant_ok_iff hread (Nat.le_of_lt hnow), hcollapse]
    simp only [Int.natCast_inj]
  constructor
  · rintro ⟨early, late, last, between⟩
    exact ⟨(argument_iff hread).symm.trans early, (range_iff hread).symm.trans late,
      (readInstant_now_iff hread).symm.trans last,
      fun h0 hlt => (hbetween h0 hlt).mp (between h0 hlt)⟩
  · rintro ⟨early, late, last, between⟩
    exact ⟨(argument_iff hread).trans early, (range_iff hread).trans late,
      (readInstant_now_iff hread).trans last,
      fun h0 hlt => (hbetween h0 hlt).mpr (between h0 hlt)⟩

end

/-- Comparing integer parts instead of numbers makes a difference in two gaps of less than one. -/
theorem towardZero_exact_iff (now : Nat) (q : ℚ) :
    ((towardZero q < 0 ↔ q < 0) ∧ (now < towardZero q ↔ (now : ℚ) < q) ∧
      (towardZero q = now ↔ q = now) ∧ (0 ≤ q → q < now → towardZero q = ⌊q⌋)) ↔
      ¬ (-1 < q ∧ q < 0) ∧ ¬ (now < q ∧ q < now + 1) := by
  have hneg : towardZero q < 0 ↔ q ≤ -1 := towardZero_neg_iff
  have hlate : now < towardZero q ↔ (now : ℚ) + 1 ≤ q := by
    have h := le_towardZero_iff (q := q) (n := now + 1) (by omega)
    push_cast at h
    rw [← h, Int.add_one_le_iff]
  rw [hneg, hlate]
  constructor
  · rintro ⟨early, late, -, -⟩
    refine ⟨fun ⟨hlow, hhigh⟩ => ?_, fun ⟨hlow, hhigh⟩ => ?_⟩
    · exact absurd (early.mpr hhigh) (not_le.mpr hlow)
    · exact absurd (late.mpr hlow) (not_le.mpr hhigh)
  · rintro ⟨hbefore, hbehind⟩
    have early : q ≤ -1 ↔ q < 0 :=
      ⟨fun h => by linarith, fun h => not_lt.mp fun hlow => hbefore ⟨hlow, h⟩⟩
    have late : (now : ℚ) + 1 ≤ q ↔ now < q :=
      ⟨fun h => by linarith, fun h => not_lt.mp fun hhigh => hbehind ⟨h, hhigh⟩⟩
    refine ⟨early, late, ⟨fun h => ?_, fun h => ?_⟩, fun h0 _ => towardZero_of_nonneg h0⟩
    · have hnonneg : 0 ≤ q := by
        rw [← not_lt, ← early, ← hneg, h]
        omega
      have hle : (now : ℚ) ≤ q := by
        rw [towardZero_of_nonneg hnonneg] at h
        simpa [h] using Int.floor_le q
      have hge : ¬ (now : ℚ) < q := by
        rw [← late, ← hlate, h]
        exact lt_irrefl _
      exact le_antisymm (not_lt.mp hge) hle
    · rw [h]
      exact towardZero_intCast now

theorem readInstant_unbounded (hv : ¬ v.Bounded) : m.readInstant v = .error .overflow := by
  rw [readInstant, InstantFormat.read_unbounded m.format hv]

theorem readInstant_before_epoch (h : v.Numeric q) (hlow : -1 < q) (hhigh : q < 0) :
    m.readInstant v = .ok (some (if m.now = 0 then Instant.now else Instant.earliest)) := by
  have hv : v.Bounded :=
    h.bounded_of_between (k := -1) (by simpa using hlow) (by simpa using hhigh)
  have hread := InstantFormat.read_numeric m.format h hv
  have hzero : towardZero q = (0 : Nat) := by
    have hnonneg : ¬ towardZero q < 0 := by
      rw [towardZero_neg_iff]
      linarith
    have hnonpos : ¬ 1 ≤ towardZero q := by
      rw [le_towardZero_iff one_pos, Int.cast_one]
      linarith
    omega
  by_cases hnow : m.now = 0
  · rw [if_pos hnow, readInstant_now_iff hread, hzero, hnow]
  · obtain ⟨i, hi, hmillis⟩ := (readInstant_ok_iff hread (Nat.zero_le _)).mpr hzero
    have hearliest : i = Instant.earliest := by
      rw [collapse, if_neg (Ne.symm hnow)] at hmillis
      cases i
      cases hmillis
      rfl
    rw [if_neg hnow, hi, hearliest]

theorem readInstant_behind_now (h : v.Numeric q) (hlow : m.now < q) (hhigh : q < m.now + 1) :
    m.readInstant v = .ok (some Instant.now) := by
  have hv : v.Bounded :=
    h.bounded_of_between (k := m.now) (by simpa using hlow) (by simpa using hhigh)
  have hnonneg : (0 : ℚ) ≤ m.now := Nat.cast_nonneg _
  rw [readInstant_now_iff (InstantFormat.read_numeric m.format h hv),
    towardZero_of_nonneg (by linarith)]
  exact Int.floor_eq_iff.mpr ⟨by simpa using hlow.le, by simpa using hhigh⟩

/-- A number that has to be refused is not admitted by its exact value if it is admitted, or if
reading it fails otherwise. -/
theorem AdmitsExactly.exists_input (h : m.AdmitsExactly v q) (hout : q < 0 ∨ m.now < q) :
    ∃ e, m.readInstant v = .error (.input e) := by
  rcases hout with hout | hout
  · obtain ⟨e, he, -⟩ := h.early.mpr hout
    exact ⟨e, he⟩
  · obtain ⟨e, he, -⟩ := h.late.mpr hout
    exact ⟨e, he⟩

end BitemporalMapper

-- ---------------------------------------------------------------------------
-- Numbers at the borders
-- ---------------------------------------------------------------------------

/-- A whole number of halves. -/
def Binary64.ofHalves (negative : Bool) (n : Nat) (h : n ≤ 2 ^ 53) : Binary64 :=
  .finite negative (n * 2 ^ (unitBits - 1)) (representable_mul_two_pow h (by decide))

theorem Value.numeric_ofHalves (negative : Bool) {n : Nat} (h : n ≤ 2 ^ 53) :
    Numeric (.float (.ofHalves negative n h)) ((if negative then -n else n : ℚ) / 2) := by
  obtain ⟨bits, hbits⟩ : ∃ bits, Binary64.unitBits = bits + 1 := ⟨Binary64.unitBits - 1, rfl⟩
  have hone : (Binary64.unitsPerOne : ℚ) = 2 ^ bits * 2 := by
    rw [Binary64.unitsPerOne_eq, hbits, pow_succ]
    push_cast
    rfl
  have hquotient : ((Binary64.signedUnits negative (n * 2 ^ (Binary64.unitBits - 1)) : Int) : ℚ) /
      (Binary64.unitsPerOne : ℚ) = (if negative then -n else n : ℚ) / 2 := by
    rw [hone, hbits, Nat.add_sub_cancel]
    cases negative <;> simp only [Binary64.signedUnits, if_true, Bool.false_eq_true, if_false] <;>
      push_cast <;> field_simp
  rw [← hquotient]
  exact .float _ _ _

namespace Value

def halfBeforeEpoch : Value := .float (.ofHalves true 1 (by decide))

def halfBeforeHundred : Value := .float (.ofHalves false 199 (by decide))

def halfBehindHundred : Value := .float (.ofHalves false 201 (by decide))

def behindDoubles : Value := .int (10 ^ 400)

theorem numeric_halfBeforeEpoch : halfBeforeEpoch.Numeric (-1 / 2) := by
  simpa [halfBeforeEpoch] using numeric_ofHalves true (n := 1) (by decide)

theorem numeric_halfBeforeHundred : halfBeforeHundred.Numeric (199 / 2) := by
  simpa [halfBeforeHundred] using numeric_ofHalves false (n := 199) (by decide)

theorem numeric_halfBehindHundred : halfBehindHundred.Numeric (201 / 2) := by
  simpa [halfBehindHundred] using numeric_ofHalves false (n := 201) (by decide)

theorem numeric_behindDoubles : behindDoubles.Numeric ((10 ^ 400 : Int) : ℚ) := .int _

theorem not_bounded_behindDoubles : ¬ behindDoubles.Bounded :=
  (by decide +kernel : ¬ (10 ^ 400 : Int).natAbs < Binary64.intLimit)

end Value

namespace BitemporalMapper

variable {m : BitemporalMapper} {v : Value} {q : ℚ}

/-- A mapper whose open end is the instant 100. -/
def upToHundred : BitemporalMapper :=
  ⟨"name", Ends.ofFn Axis.column, InstantFormat.ofPattern none, 100, by decide⟩

/-- A number is admitted by its exact value unless it has no double or lies less than a millisecond
outside the range that the mapper admits. None of these is refused for where it lies. -/
theorem admitsExactly_iff (m : BitemporalMapper) (h : v.Numeric q) :
    (m.AdmitsExactly v q ↔
      v.Bounded ∧ ¬ (-1 < q ∧ q < 0) ∧ ¬ (m.now < q ∧ q < m.now + 1)) ∧
    (¬ v.Bounded → m.readInstant v = .error .overflow) ∧
    (-1 < q → q < 0 →
      m.readInstant v = .ok (some (if m.now = 0 then Instant.now else Instant.earliest))) ∧
    (m.now < q → q < m.now + 1 → m.readInstant v = .ok (some Instant.now)) := by
  refine ⟨?_, readInstant_unbounded, readInstant_before_epoch h, readInstant_behind_now h⟩
  by_cases hv : v.Bounded
  · rw [admitsExactly_iff_of_read (InstantFormat.read_numeric m.format h hv),
      towardZero_exact_iff, and_iff_right hv]
  · refine iff_of_false (fun hexact => ?_) fun hand => hv hand.1
    obtain ⟨e, he⟩ := hexact.exists_input (h.outside hv m.now_le)
    rw [readInstant_unbounded hv] at he
    cases he

/-- On both sides of the open end, in front of the epoch, and without a double. -/
theorem admitsExactly_iff_hundred :
    upToHundred.AdmitsExactly .halfBeforeHundred (199 / 2) ∧
      upToHundred.readInstant .halfBehindHundred = .ok (some Instant.now) ∧
      upToHundred.readInstant .halfBeforeEpoch = .ok (some Instant.earliest) ∧
      upToHundred.readInstant .behindDoubles = .error .overflow := by
  obtain ⟨hexact, -⟩ := admitsExactly_iff upToHundred Value.numeric_halfBeforeHundred
  obtain ⟨-, -, -, hbehind⟩ := admitsExactly_iff upToHundred Value.numeric_halfBehindHundred
  obtain ⟨-, -, hbefore, -⟩ := admitsExactly_iff upToHundred Value.numeric_halfBeforeEpoch
  obtain ⟨-, hover, -⟩ := admitsExactly_iff upToHundred Value.numeric_behindDoubles
  refine ⟨hexact.mpr ⟨trivial, ?_, ?_⟩, hbehind ?_ ?_, hbefore ?_ ?_,
    hover Value.not_bounded_behindDoubles⟩ <;> norm_num [upToHundred]

/-- Numbers that have to be refused: two are admitted, and one is not compared with the open end. -/
theorem passes_borders :
    Value.halfBeforeEpoch.Numeric (-1 / 2) ∧
      ¬ upToHundred.AdmitsExactly .halfBeforeEpoch (-1 / 2) ∧
      Value.halfBehindHundred.Numeric (201 / 2) ∧
      ¬ upToHundred.AdmitsExactly .halfBehindHundred (201 / 2) ∧
      Value.behindDoubles.Numeric ((10 ^ 400 : Int) : ℚ) ∧
      ¬ upToHundred.AdmitsExactly .behindDoubles ((10 ^ 400 : Int) : ℚ) := by
  refine ⟨Value.numeric_halfBeforeEpoch, fun h => ?_, Value.numeric_halfBehindHundred,
    fun h => ?_, Value.numeric_behindDoubles, fun h => ?_⟩
  · have hadmitted := readInstant_before_epoch (m := upToHundred) Value.numeric_halfBeforeEpoch
      (by norm_num) (by norm_num)
    obtain ⟨e, he⟩ := h.exists_input (.inl (by norm_num))
    rw [hadmitted] at he
    cases he
  · have hadmitted := readInstant_behind_now (m := upToHundred) Value.numeric_halfBehindHundred
      (by norm_num [upToHundred]) (by norm_num [upToHundred])
    obtain ⟨e, he⟩ := h.exists_input (.inr (by norm_num [upToHundred]))
    rw [hadmitted] at he
    cases he
  · have hlarge := Value.not_bounded_behindDoubles
    obtain ⟨e, he⟩ := h.exists_input
      (Value.numeric_behindDoubles.outside hlarge upToHundred.now_le)
    rw [readInstant_unbounded hlarge] at he
    cases he

end BitemporalMapper

end Bitemporal
