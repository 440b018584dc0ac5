import Mathlib.Algebra.Order.Group.Nat
import Mathlib.Data.List.Basic
import Mathlib.Tactic.IntervalCases
import Bitemporal.Calendar.DateTime

/-!
# The calendar counts days

Day numbers and dates determine each other on the whole calendar. The number of a date is the count
of days that one passes when one walks from the epoch to the date, from each day to the day after
it: `daysFromEpoch_iff`. Years are walked by the leap rules, months by their lengths. So
`DateTime.micros` is the time that has elapsed since the epoch, and every millisecond of the
calendar is the count of one moment.
-/

namespace Bitemporal

-- ---------------------------------------------------------------------------
-- Years and months
-- ---------------------------------------------------------------------------

namespace Calendar

theorem daysBeforeYear_add_one (n : Nat) :
    daysBeforeYear (n + 1) = 365 * n + n / 4 - n / 100 + n / 400 := rfl

theorem isLeap_iff {year : Nat} :
    isLeap year = true ↔ 4 ∣ year ∧ (100 ∣ year → 400 ∣ year) := by
  simp only [isLeap, Bool.and_eq_true, Bool.or_eq_true, decide_eq_true_eq, Nat.dvd_iff_mod_eq_zero,
    ne_eq, imp_iff_not_or]

theorem daysBeforeYear_succ {year : Nat} (h : 1 ≤ year) :
    daysBeforeYear (year + 1) = daysBeforeYear year + daysInYear year := by
  obtain ⟨n, rfl⟩ := Nat.exists_eq_add_of_le' h
  have hless : n / 100 ≤ n / 4 := by omega
  simp only [daysBeforeYear_add_one, daysInYear, isLeap_iff, Nat.succ_div]
  by_cases h4 : 4 ∣ n + 1
  · by_cases h100 : 100 ∣ n + 1
    · by_cases h400 : 400 ∣ n + 1
      · simp only [h4, h100, h400, if_true, true_and, imp_self]
        omega
      · simp only [h4, h100, h400, if_true, if_false, true_and, imp_false, not_true]
        omega
    · have h400 : ¬ 400 ∣ n + 1 := by omega
      simp only [h4, h100, h400, if_true, if_false, true_and, false_imp_iff]
      omega
  · have h100 : ¬ 100 ∣ n + 1 := by omega
    have h400 : ¬ 400 ∣ n + 1 := by omega
    simp only [h4, h100, h400, if_false, false_and]
    omega

theorem daysBeforeYear_mono {year other : Nat} (h : year ≤ other) :
    daysBeforeYear year ≤ daysBeforeYear other := by
  rcases Nat.eq_or_lt_of_le h with rfl | hlt
  · exact Nat.le_refl _
  · simp only [daysBeforeYear]
    omega

/-- The year of a count of days is the one whose days the count falls among. -/
theorem yearOfDays_bounds (days : Nat) :
    1 ≤ yearOfDays days ∧ daysBeforeYear (yearOfDays days) ≤ days ∧
      days < daysBeforeYear (yearOfDays days + 1) := by
  simp only [yearOfDays]
  split
  · simp only [daysBeforeYear] at *
    omega
  · split
    · simp only [daysBeforeYear] at *
      omega
    · exact ⟨by omega, by omega, by omega⟩

theorem eq_yearOfDays {year days : Nat} (hlow : daysBeforeYear year ≤ days)
    (hhigh : days < daysBeforeYear (year + 1)) : yearOfDays days = year := by
  obtain ⟨-, hbefore, hafter⟩ := yearOfDays_bounds days
  rcases Nat.lt_trichotomy (yearOfDays days) year with hlt | heq | hgt
  · have := daysBeforeYear_mono (show yearOfDays days + 1 ≤ year from hlt)
    omega
  · exact heq
  · have := daysBeforeYear_mono (show year + 1 ≤ yearOfDays days from hgt)
    omega

/-- Walking along months gives the month that a count of days falls in. -/
theorem monthAndDay_spec {lengths : List Nat} {days : Nat}
    (h : days < lengths.foldr (· + ·) 0) :
    ∃ month day, monthAndDay lengths days = (month + 1, day + 1) ∧ month < lengths.length ∧
      day < lengths.getD month 0 ∧ (lengths.take month).foldr (· + ·) 0 + day = days := by
  induction lengths generalizing days with
  | nil => simp at h
  | cons length rest ih =>
    rw [List.foldr_cons] at h
    by_cases hlt : days < length
    · exact ⟨0, days, by simp [monthAndDay, hlt], by simp, by simpa using hlt, by simp⟩
    · have hrest : days - length < rest.foldr (· + ·) 0 := by omega
      obtain ⟨month, day, heq, hmonth, hday, hsum⟩ := ih hrest
      refine ⟨month + 1, day, by simp [monthAndDay, hlt, heq], by simpa using hmonth,
        by simpa using hday, ?_⟩
      simp only [List.take_succ_cons, List.foldr_cons]
      omega

theorem monthAndDay_add {lengths : List Nat} {month day : Nat} (h : day < lengths.getD month 0) :
    monthAndDay lengths ((lengths.take month).foldr (· + ·) 0 + day) = (month + 1, day + 1) := by
  induction lengths generalizing month with
  | nil => simp at h
  | cons length rest ih =>
    cases month with
    | zero =>
      have hlt : day < length := by simpa using h
      simp [monthAndDay, hlt]
    | succ month =>
      have hday : day < rest.getD month 0 := by simpa using h
      have hsum : ((length :: rest).take (month + 1)).foldr (· + ·) 0 + day =
          length + ((rest.take month).foldr (· + ·) 0 + day) := Nat.add_assoc ..
      rw [hsum, monthAndDay, if_neg (Nat.not_lt.mpr (Nat.le_add_right ..)),
        Nat.add_sub_cancel_left, ih hday]

theorem sum_monthLengths (year : Nat) :
    (monthLengths year).foldr (· + ·) 0 = daysInYear year := by
  unfold monthLengths daysInYear
  split <;> rfl

theorem sum_take_succ (lengths : List Nat) (k : Nat) :
    (lengths.take (k + 1)).foldr (· + ·) 0 =
      (lengths.take k).foldr (· + ·) 0 + lengths.getD k 0 := by
  induction lengths generalizing k with
  | nil => simp
  | cons length rest ih =>
    cases k with
    | zero => simp
    | succ k => simp [ih, Nat.add_assoc]

theorem daysBeforeMonth_succ (year : Nat) {month : Nat} (h : 1 ≤ month) :
    daysBeforeMonth year (month + 1) = daysBeforeMonth year month + daysInMonth year month := by
  obtain ⟨k, rfl⟩ := Nat.exists_eq_add_of_le' h
  exact sum_take_succ (monthLengths year) k

theorem daysInMonth_pos {year month : Nat} (h : 1 ≤ month ∧ month ≤ 12) :
    1 ≤ daysInMonth year month := by
  obtain ⟨hlow, hhigh⟩ := h
  interval_cases month <;> simp [daysInMonth, monthLengths]
  split <;> decide

theorem daysInMonth_le {year month : Nat} (h : 1 ≤ month ∧ month ≤ 12) :
    daysInMonth year month ≤ 31 := by
  obtain ⟨hlow, hhigh⟩ := h
  interval_cases month <;> simp [daysInMonth, monthLengths]
  split <;> decide

theorem sum_take_le (lengths : List Nat) (k : Nat) :
    (lengths.take k).foldr (· + ·) 0 ≤ lengths.foldr (· + ·) 0 := by
  induction lengths generalizing k with
  | nil => simp
  | cons length rest ih =>
    cases k with
    | zero => simp
    | succ k => simpa using ih k

end Calendar

-- ---------------------------------------------------------------------------
-- Days and dates
-- ---------------------------------------------------------------------------

namespace Date

open Calendar

variable {d e : Date} {n : Int}

theorem dayNumber_eq (d : Date) :
    d.dayNumber =
      (daysBeforeYear d.year : Int) + daysBeforeMonth d.year d.month + d.day - 719163 := by
  have := d.day_bounds
  simp only [dayNumber, dayOfYear, epochDays]
  omega

theorem dayOfYear_lt (d : Date) : d.dayOfYear < daysInYear d.year := by
  have hday := d.day_bounds
  have hsucc := daysBeforeMonth_succ d.year d.month_bounds.1
  have hle := sum_take_le (monthLengths d.year) d.month
  rw [sum_monthLengths] at hle
  change daysBeforeMonth d.year (d.month + 1) ≤ _ at hle
  simp only [dayOfYear]
  omega

theorem day_le (d : Date) : d.day ≤ 31 :=
  Nat.le_trans d.day_bounds.2 (daysInMonth_le d.month_bounds)

theorem make?_self (d : Date) : make? d.year d.month d.day = some d := by
  simp [make?, d.year_bounds, d.month_bounds, d.day_bounds]

theorem ofDayNumber?_dayNumber (d : Date) : ofDayNumber? d.dayNumber = some d := by
  have hyear := daysBeforeYear_succ d.year_bounds.1
  have hday := d.dayOfYear_lt
  have hdays : d.dayNumber + epochDays = ((daysBeforeYear d.year + d.dayOfYear : Nat) : Int) := by
    simp only [dayNumber]
    omega
  have hmonth : monthAndDay (monthLengths d.year) d.dayOfYear = (d.month, d.day) := by
    have hpos := d.month_bounds
    have hbounds := d.day_bounds
    have hlt : d.day - 1 < (monthLengths d.year).getD (d.month - 1) 0 := by
      change d.day - 1 < daysInMonth d.year d.month
      omega
    have h := monthAndDay_add hlt
    rw [Nat.sub_add_cancel hpos.1, Nat.sub_add_cancel hbounds.1] at h
    exact h
  have hyearOf : yearOfDays (daysBeforeYear d.year + d.dayOfYear) = d.year :=
    eq_yearOfDays (by omega) (by omega)
  simp only [ofDayNumber?, hdays, Int.toNat_natCast]
  rw [if_neg (by omega), hyearOf, Nat.add_sub_cancel_left, hmonth]
  exact make?_self d

theorem dayNumber_inj (h : d.dayNumber = e.dayNumber) : d = e := by
  have heq := ofDayNumber?_dayNumber d
  rw [h, ofDayNumber?_dayNumber] at heq
  exact (Option.some.inj heq).symm

/-- The days of the calendar, from the first to the last. -/
theorem exists_date (hlow : -719162 ≤ n) (hhigh : n ≤ 2932896) : ∃ d : Date, d.dayNumber = n := by
  obtain ⟨days, hdays⟩ : ∃ days : Nat, n + 719162 = days := ⟨(n + 719162).toNat, by omega⟩
  obtain ⟨hpos, hbefore, hafter⟩ := yearOfDays_bounds days
  generalize yearOfDays days = year at hpos hbefore hafter
  have hyear := daysBeforeYear_succ hpos
  have hrest : days - daysBeforeYear year < (monthLengths year).foldr (· + ·) 0 := by
    rw [sum_monthLengths]
    omega
  obtain ⟨month, day, -, hmonth, hday, hsum⟩ := monthAndDay_spec hrest
  have hlast : year ≤ 9999 := by
    by_contra hlate
    have := daysBeforeYear_mono (show 10000 ≤ year by omega)
    have : daysBeforeYear 10000 = 3652059 := rfl
    omega
  refine ⟨⟨year, month + 1, day + 1, ⟨hpos, hlast⟩, ⟨by omega, hmonth⟩, by omega, hday⟩, ?_⟩
  simp only [dayNumber, dayOfYear, daysBeforeMonth, epochDays, Nat.add_sub_cancel, hsum]
  omega

-- ---------------------------------------------------------------------------
-- Walking from day to day
-- ---------------------------------------------------------------------------

/-- The day after a date is the next one of its month, the first one of the next month, or New
Year's Day. -/
inductive DayAfter : Date → Date → Prop
  | sameMonth {d e : Date} (year : e.year = d.year) (month : e.month = d.month)
      (day : e.day = d.day + 1) : DayAfter d e
  | nextMonth {d e : Date} (last : d.day = daysInMonth d.year d.month) (year : e.year = d.year)
      (month : e.month = d.month + 1) (day : e.day = 1) : DayAfter d e
  | nextYear {d e : Date} (december : d.month = 12) (last : d.day = daysInMonth d.year d.month)
      (year : e.year = d.year + 1) (month : e.month = 1) (day : e.day = 1) : DayAfter d e

theorem DayAfter.dayNumber (h : DayAfter d e) : e.dayNumber = d.dayNumber + 1 := by
  have hsucc := daysBeforeMonth_succ d.year d.month_bounds.1
  rw [dayNumber_eq, dayNumber_eq]
  cases h with
  | sameMonth year month day =>
    rw [year, month, day]
    omega
  | nextMonth last year month day =>
    rw [year, month, day, hsucc, last]
    omega
  | nextYear december last year month day =>
    have hyear := daysBeforeYear_succ d.year_bounds.1
    have hend := sum_monthLengths d.year
    have hfirst : daysBeforeMonth (d.year + 1) 1 = 0 := rfl
    rw [december] at hsucc
    change daysBeforeMonth d.year (12 + 1) = daysInYear d.year at hend
    rw [year, month, day, hfirst, hyear, december]
    rw [december] at last
    omega

theorem exists_dayAfter (h : d.dayNumber < 2932896) : ∃ e, DayAfter d e := by
  have hyear := d.year_bounds
  have hmonth := d.month_bounds
  have hday := d.day_bounds
  by_cases hlast : d.day = daysInMonth d.year d.month
  · by_cases hdecember : d.month = 12
    · have hnext : d.year + 1 ≤ 9999 := by
        by_contra hend
        have hnine : d.year = 9999 := by omega
        rw [dayNumber_eq, hlast, hdecember, hnine] at h
        exact absurd h (by decide)
      exact ⟨⟨d.year + 1, 1, 1, ⟨by omega, hnext⟩, by decide, by decide, daysInMonth_pos (by decide)⟩,
        .nextYear hdecember hlast rfl rfl rfl⟩
    · have hnext : 1 ≤ d.month + 1 ∧ d.month + 1 ≤ 12 := by omega
      exact ⟨⟨d.year, d.month + 1, 1, hyear, hnext, by decide, daysInMonth_pos hnext⟩,
        .nextMonth hlast rfl rfl rfl⟩
  · exact ⟨⟨d.year, d.month, d.day + 1, hyear, hmonth, by omega, by omega⟩,
      .sameMonth rfl rfl rfl⟩

def epoch : Date := ⟨1970, 1, 1, by decide, by decide, by decide⟩

/-- A date is reached from the epoch in a number of days. -/
inductive DaysFromEpoch : Date → Int → Prop
  | epoch : DaysFromEpoch epoch 0
  | forth {d e : Date} {n : Int} (h : DaysFromEpoch d n) (next : DayAfter d e) :
      DaysFromEpoch e (n + 1)
  | back {d e : Date} {n : Int} (h : DaysFromEpoch e (n + 1)) (next : DayAfter d e) :
      DaysFromEpoch d n

theorem DaysFromEpoch.dayNumber (h : DaysFromEpoch d n) : d.dayNumber = n := by
  induction h with
  | epoch => decide
  | forth h next ih => rw [next.dayNumber, ih]
  | back h next ih =>
    rw [next.dayNumber] at ih
    omega

theorem dayNumber_bounds (d : Date) : -719162 ≤ d.dayNumber ∧ d.dayNumber ≤ 2932896 := by
  have hmono := daysBeforeYear_mono (show d.year + 1 ≤ 10000 from Nat.succ_le_succ d.year_bounds.2)
  have hend : daysBeforeYear 10000 = 3652059 := rfl
  have hyear := daysBeforeYear_succ d.year_bounds.1
  have hday := d.dayOfYear_lt
  simp only [Date.dayNumber, epochDays]
  omega

theorem daysFromEpoch_dayNumber (d : Date) : DaysFromEpoch d d.dayNumber := by
  have hbounds := d.dayNumber_bounds
  generalize hn : d.dayNumber = n at hbounds
  induction n using Int.induction_on generalizing d with
  | zero =>
    rw [dayNumber_inj (hn.trans (show (0 : Int) = epoch.dayNumber from by decide))]
    exact .epoch
  | succ k ih =>
    obtain ⟨p, hp⟩ : ∃ p : Date, p.dayNumber = k := exists_date (by omega) (by omega)
    obtain ⟨e, he⟩ := exists_dayAfter (d := p) (by omega)
    obtain rfl : d = e := dayNumber_inj (by rw [he.dayNumber, hp, hn])
    exact .forth (ih p hp (by omega)) he
  | pred k ih =>
    obtain ⟨e, he⟩ := exists_dayAfter (d := d) (by omega)
    refine .back (e := e) ?_ he
    have hnext : e.dayNumber = -(k : Int) := by rw [he.dayNumber, hn]; omega
    rw [Int.sub_add_cancel]
    exact ih e hnext (by omega)

/-- The number of a date counts the days from the epoch to it. -/
theorem daysFromEpoch_iff : DaysFromEpoch d n ↔ n = d.dayNumber :=
  ⟨fun h => h.dayNumber.symm, fun h => h ▸ daysFromEpoch_dayNumber d⟩

end Date

-- ---------------------------------------------------------------------------
-- Moments
-- ---------------------------------------------------------------------------

theorem TimeOfDay.micros_ofMicros {n : Nat} (h : n < microsPerDay) : (ofMicros n).micros = n := by
  simp only [micros, ofMicros]
  unfold microsPerDay at h
  omega

namespace DateTime

variable {t : DateTime} {x : Int}

/-- The microseconds that have elapsed in universal time from the epoch to a moment: whole days,
the time of day, and the offset taken off. -/
def Elapsed (t : DateTime) (x : Int) : Prop :=
  ∃ days, t.date.DaysFromEpoch days ∧
    x = days * 86400000000 +
      (((t.time.hour * 60 + t.time.minute) * 60 + t.time.second) * 1000000 + t.time.micro : Nat) -
      (t.offset.getD Offset.utc).micros

theorem elapsed_iff : t.Elapsed x ↔ x = t.micros := by
  constructor
  · rintro ⟨days, hdays, rfl⟩
    rw [Date.daysFromEpoch_iff.mp hdays]
    rfl
  · rintro rfl
    exact ⟨_, Date.daysFromEpoch_iff.mpr rfl, rfl⟩

/-- Every millisecond of the calendar has its moment in universal time. -/
theorem exists_ofMillis? {m : Int} (hlow : -719162 * 86400000 ≤ m)
    (hhigh : m < 2932897 * 86400000) :
    ∃ t, ofMillis? m = some t ∧ t.millis = m ∧ t.date.dayNumber = m / 86400000 ∧
      t.offset = some Offset.utc := by
  obtain ⟨date, hdate⟩ : ∃ d : Date, d.dayNumber = m / 86400000 :=
    Date.exists_date (by omega) (by omega)
  have hday : m.fdiv 86400000 = date.dayNumber := by
    rw [hdate, Int.fdiv_eq_ediv_of_nonneg _ (by decide)]
  have hmod : m.fmod 86400000 = m % 86400000 := Int.fmod_eq_emod_of_nonneg _ (by decide)
  have htime := TimeOfDay.micros_ofMicros (n := (m % 86400000).toNat * 1000)
    (by unfold microsPerDay; omega)
  refine ⟨⟨date, TimeOfDay.ofMicros ((m % 86400000).toNat * 1000), some Offset.utc⟩, ?_, ?_, hdate,
    rfl⟩
  · simp [ofMillis?, hday, hmod, Date.ofDayNumber?_dayNumber]
  rw [millis, Int.fdiv_eq_ediv_of_nonneg _ (by decide)]
  simp only [micros, htime, hdate, microsPerDay, Option.getD_some, Offset.utc]
  omega

end DateTime

end Bitemporal
