import Mathlib.Data.Nat.Digits.Lemmas
import Bitemporal.Number.Numeral

/-!
# Numerals read back

The numeral of a number is the sequence of its decimal digits, most significant first. So it has no
leading zero, its length is bounded by powers of ten, and the digit values read from it denote the
number again.
-/

namespace Bitemporal.Numeral

variable {n d : Nat} {ds es : List Nat}

-- ---------------------------------------------------------------------------
-- Digits of a number
-- ---------------------------------------------------------------------------

def digits (n : Nat) : List Nat := if n = 0 then [0] else (Nat.digits 10 n).reverse

/-- Digit values that can stand in a decimal numeral. -/
def Decimal (ds : List Nat) : Prop := ∀ d ∈ ds, d < 10

instance : Decidable (Decimal ds) := inferInstanceAs (Decidable (∀ d ∈ ds, d < 10))

theorem Decimal.append (hds : Decimal ds) (hes : Decimal es) : Decimal (ds ++ es) :=
  List.forall_mem_append.mpr ⟨hds, hes⟩

theorem decimal_replicate (h : d < 10) (k : Nat) : Decimal (List.replicate k d) :=
  fun _ he => List.eq_of_mem_replicate he ▸ h

theorem digitsOnto_eq (n : Nat) (rest : List Char) :
    digitsOnto n rest = (digits n).map digitChar ++ rest := by
  fun_induction digitsOnto n rest with
  | case1 n rest h =>
    by_cases hzero : n = 0
    · simp [digits, hzero]
    · simp [digits, hzero, Nat.digits_of_lt 10 n hzero h]
  | case2 n rest h ih =>
    have hzero : n ≠ 0 := by omega
    have hrest : n / 10 ≠ 0 := by omega
    rw [ih, digits, digits, if_neg hzero, if_neg hrest,
      Nat.digits_eq_cons_digits_div (by decide) hzero]
    simp

theorem natDigits_eq (n : Nat) : natDigits n = (digits n).map digitChar := by
  rw [natDigits, digitsOnto_eq, List.append_nil]

theorem digits_ne_nil (n : Nat) : digits n ≠ [] := by
  unfold digits
  split
  · exact List.cons_ne_nil _ _
  · simpa using Nat.digits_ne_nil_iff_ne_zero.mpr ‹_›

theorem decimal_digits (n : Nat) : Decimal (digits n) := by
  intro d hd
  unfold digits at hd
  split at hd
  · simp_all
  · exact Nat.digits_lt_base (by decide) (List.mem_reverse.mp hd)

/-- Only the numeral of zero starts with a zero. -/
theorem head_digits (h : n ≠ 0) : ∃ d ds, digits n = d :: ds ∧ d ≠ 0 := by
  have hnil := Nat.digits_ne_nil_iff_ne_zero (b := 10) |>.mpr h
  refine ⟨(Nat.digits 10 n).getLast hnil, (Nat.digits 10 n).dropLast.reverse, ?_,
    Nat.getLast_digit_ne_zero 10 h⟩
  conv_lhs => rw [digits, if_neg h, ← List.dropLast_append_getLast hnil]
  simp

-- ---------------------------------------------------------------------------
-- The number of digits
-- ---------------------------------------------------------------------------

theorem ofDigits_eq (ds : List Nat) : ofDigits ds = Nat.ofDigits 10 ds.reverse := by
  have hfold (n : Nat) :
      ds.foldl (fun n d => 10 * n + d) n = 10 ^ ds.length * n + Nat.ofDigits 10 ds.reverse := by
    induction ds generalizing n with
    | nil => simp
    | cons d ds ih =>
      rw [List.foldl_cons, ih, List.reverse_cons, Nat.ofDigits_append, Nat.ofDigits_singleton,
        List.length_reverse, List.length_cons, Nat.pow_succ]
      ring
  simpa [ofDigits] using hfold 0

theorem ofDigits_digits (n : Nat) : ofDigits (digits n) = n := by
  rw [ofDigits_eq, digits]
  split
  · simp_all
  · rw [List.reverse_reverse, Nat.ofDigits_digits]

theorem ofDigits_append (ds es : List Nat) :
    ofDigits (ds ++ es) = ofDigits ds * 10 ^ es.length + ofDigits es := by
  simp only [ofDigits_eq, List.reverse_append, Nat.ofDigits_append, List.length_reverse]
  ring

theorem ofDigits_replicate_zero (k : Nat) : ofDigits (List.replicate k 0) = 0 := by
  rw [ofDigits_eq, List.reverse_replicate, Nat.ofDigits_replicate_zero]

theorem ofDigits_zeros_append (k : Nat) (ds : List Nat) :
    ofDigits (List.replicate k 0 ++ ds) = ofDigits ds := by
  rw [ofDigits_append, ofDigits_replicate_zero, Nat.zero_mul, Nat.zero_add]

theorem ofDigits_append_zeros (ds : List Nat) (k : Nat) :
    ofDigits (ds ++ List.replicate k 0) = ofDigits ds * 10 ^ k := by
  rw [ofDigits_append, ofDigits_replicate_zero, Nat.add_zero, List.length_replicate]

theorem lt_pow_length_digits (n : Nat) : n < 10 ^ (digits n).length := by
  unfold digits
  split
  · simp_all
  · rw [List.length_reverse]
    exact Nat.lt_base_pow_length_digits (by decide)

theorem pow_length_digits_le (h : n ≠ 0) : 10 ^ ((digits n).length - 1) ≤ n := by
  rw [digits, if_neg h, List.length_reverse]
  exact (Nat.lt_digits_length_iff (by decide) n).mp
    (Nat.sub_one_lt (by simpa using Nat.digits_ne_nil_iff_ne_zero.mpr h))

-- ---------------------------------------------------------------------------
-- Digit characters
-- ---------------------------------------------------------------------------

theorem isDigit_digitChar : ∀ d < 10, (digitChar d).isDigit = true := by decide

theorem digitValue?_digitChar : ∀ d < 10, Text.digitValue? (digitChar d) = some d := by decide

/-- A numeral starts with a digit. -/
theorem exists_natDigits (n : Nat) : ∃ d < 10, ∃ rest, natDigits n = digitChar d :: rest := by
  rw [natDigits_eq]
  have hdecimal := decimal_digits n
  cases hdigits : digits n with
  | nil => exact absurd hdigits (digits_ne_nil n)
  | cons d ds =>
    rw [hdigits] at hdecimal
    exact ⟨d, hdecimal d List.mem_cons_self, _, rfl⟩

theorem digitChar_ne_underscore : ∀ d < 10, digitChar d ≠ '_' := by decide

theorem groupedDigits?_map (hds : Decimal ds) (hnil : ds ≠ []) :
    groupedDigits? (ds.map digitChar) = some ds := by
  induction ds with
  | nil => exact absurd rfl hnil
  | cons d ds ih =>
    obtain ⟨hd, hrest⟩ := List.forall_mem_cons.mp hds
    cases ds with
    | nil => simp [groupedDigits?, digitValue?_digitChar d hd]
    | cons e es =>
      have hne := digitChar_ne_underscore e (hrest e List.mem_cons_self)
      have ih := ih hrest (List.cons_ne_nil _ _)
      rw [List.map_cons] at ih
      rw [List.map_cons, List.map_cons, groupedDigits?, digitValue?_digitChar d hd, ih]
      · rfl
      · simp
      · intro _ h
        exact hne (List.cons.inj h).1

/-- The numeral of a number denotes the number, as long as it is not too long. -/
theorem readNat?_natDigits (h : (natDigits n).length ≤ maxDigits) :
    readNat? (natDigits n) = some n := by
  rw [natDigits_eq, List.length_map] at h
  rw [natDigits_eq, readNat?, groupedDigits?_map (decimal_digits n) (digits_ne_nil n)]
  exact (if_pos h).trans (congrArg some (ofDigits_digits n))

-- ---------------------------------------------------------------------------
-- Numerals of fixed width
-- ---------------------------------------------------------------------------

def fixedDigits : Nat → Nat → List Nat
  | 0, _ => []
  | width + 1, n => fixedDigits width (n / 10) ++ [n % 10]

theorem padded_eq (width n : Nat) : padded width n = (fixedDigits width n).map digitChar := by
  induction width generalizing n with
  | zero => rfl
  | succ width ih => simp [padded, fixedDigits, ih]

@[simp] theorem length_fixedDigits (width n : Nat) : (fixedDigits width n).length = width := by
  induction width generalizing n with
  | zero => rfl
  | succ width ih => simp [fixedDigits, ih]

@[simp] theorem length_padded (width n : Nat) : (padded width n).length = width := by
  simp [padded_eq]

theorem decimal_fixedDigits (width n : Nat) : Decimal (fixedDigits width n) := by
  induction width generalizing n with
  | zero => simp [fixedDigits, Decimal]
  | succ width ih =>
    refine (ih _).append fun d hd => ?_
    rw [List.mem_singleton.mp hd]
    exact Nat.mod_lt _ (by decide)

theorem ofDigits_fixedDigits {width : Nat} (h : n < 10 ^ width) :
    ofDigits (fixedDigits width n) = n := by
  induction width generalizing n with
  | zero =>
    obtain rfl : n = 0 := by simpa using h
    rfl
  | succ width ih =>
    have hshort : n / 10 < 10 ^ width := by
      rw [Nat.pow_succ] at h
      omega
    have hlast : ofDigits [n % 10] = n % 10 := by simp [ofDigits]
    rw [fixedDigits, ofDigits_append, ih hshort, hlast]
    simp only [List.length_singleton, Nat.pow_one]
    omega

theorem natDigits_of_ge (h : 10 ≤ n) :
    natDigits n = natDigits (n / 10) ++ [digitChar (n % 10)] := by
  have hdigits : digits n = digits (n / 10) ++ [n % 10] := by
    have hn : n ≠ 0 := by omega
    have hrest : n / 10 ≠ 0 := by omega
    simp [digits, hn, hrest, Nat.digits_eq_cons_digits_div]
  simp [natDigits_eq, hdigits]

theorem natDigits_of_lt (h : n < 10) : natDigits n = [digitChar n] := by
  simp [natDigits, digitsOnto, h]

theorem padded_zero (width : Nat) : padded width 0 = List.replicate width '0' := by
  induction width with
  | zero => rfl
  | succ width ih =>
    rw [padded, Nat.zero_div, ih]
    exact List.replicate_succ'.symm

/-- A numeral is filled up to a width with zeros. -/
theorem zeros_append_natDigits {width : Nat} (h : n < 10 ^ (width + 1)) :
    List.replicate (width + 1 - (natDigits n).length) '0' ++ natDigits n = padded (width + 1) n := by
  induction width generalizing n with
  | zero =>
    have hn : n < 10 := by simpa using h
    simp [natDigits_of_lt hn, padded, Nat.mod_eq_of_lt hn]
  | succ width ih =>
    by_cases hn : n < 10
    · rw [natDigits_of_lt hn, padded, Nat.div_eq_of_lt hn, padded_zero, Nat.mod_eq_of_lt hn]
      rfl
    · have hrest := ih (n := n / 10) (by rw [Nat.pow_succ] at h; omega)
      rw [natDigits_of_ge (by omega), padded, ← hrest]
      simp

theorem natDigits_eq_padded (width : Nat) (hlow : 10 ^ width ≤ n) (h : n < 10 ^ (width + 1)) :
    natDigits n = padded (width + 1) n := by
  have hlength : width < (natDigits n).length := by
    rw [natDigits_eq, List.length_map]
    exact (Nat.pow_lt_pow_iff_right (by decide)).mp (Nat.lt_of_le_of_lt hlow (lt_pow_length_digits n))
  have hzeros := zeros_append_natDigits h
  rwa [Nat.sub_eq_zero_of_le hlength, List.replicate_zero, List.nil_append] at hzeros

end Bitemporal.Numeral
