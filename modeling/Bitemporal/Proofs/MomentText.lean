import Bitemporal.Proofs.CalendarLaws
import Bitemporal.Proofs.DecimalText
import Bitemporal.Proofs.MapperLaws
import Bitemporal.Proofs.PatternReading
import Bitemporal.Proofs.PatternWriting

/-!
# Moments as texts

The default pattern spells a moment by its date, its time of day and its offset, each numeral padded
to its width. A spelling is read as the moment that it spells, and the moments of years with four
digits are written as they are spelled. Millisecond counts are therefore read back from what is
written of them, and a moment is read alike from a date-time and from a text.
-/

namespace Bitemporal

open DatePattern (Capture Item Parts)
open Numeral (digitChar padded)

-- ---------------------------------------------------------------------------
-- Spelling moments
-- ---------------------------------------------------------------------------

namespace Offset

variable {o : Offset}

def WholeMinutes (o : Offset) : Prop := ∃ n : Int, o.micros = n * 60000000

/-- A sign with two digits for the hours and two for the minutes. -/
def spelled (o : Offset) : List Char :=
  (if o.micros < 0 then '-' else '+') ::
    (padded 2 (o.micros.natAbs / 3600000000) ++ padded 2 (o.micros.natAbs / 60000000 % 60))

theorem make?_micros (o : Offset) : make? o.micros = some o :=
  dif_pos ⟨o.lower_bound, o.upper_bound⟩

theorem offsetMicros?_spelled (h : o.WholeMinutes) :
    DatePattern.offsetMicros? o.spelled = some o.micros := by
  obtain ⟨n, hn⟩ := h
  have hlow := o.lower_bound
  have hhigh := o.upper_bound
  unfold microsPerDay at hlow hhigh
  rw [spelled, DatePattern.offsetMicros?_clock _ (by omega) (by omega)]
  by_cases hnegative : o.micros < 0
  · rw [if_pos hnegative, if_pos rfl]
    congr 1
    omega
  · rw [if_neg hnegative, if_neg (by decide)]
    congr 1
    omega

end Offset

namespace DateTime

/-- `YYYY/MM/DD hh:mm:ss.ffffff`, a space and the offset. -/
def spelled (t : DateTime) : List Char :=
  padded 4 t.date.year ++ '/' :: (padded 2 t.date.month ++ '/' :: (padded 2 t.date.day ++
    ' ' :: (padded 2 t.time.hour ++ ':' :: (padded 2 t.time.minute ++
      ':' :: (padded 2 t.time.second ++ '.' :: (padded 6 t.time.micro ++
        ' ' :: (t.offset.getD Offset.utc).spelled))))))

def captures (t : DateTime) : List Capture :=
  [(.year, padded 4 t.date.year), (.month, padded 2 t.date.month), (.day, padded 2 t.date.day),
    (.hour24, padded 2 t.time.hour), (.minute, padded 2 t.time.minute),
    (.second, padded 2 t.time.second), (.microsecond, padded 6 t.time.micro),
    (.offset, (t.offset.getD Offset.utc).spelled)]

end DateTime

namespace InstantFormat

def standardFormat : InstantFormat := ofPattern none

/-- The steps of the default pattern. -/
def defaultItems : List Item :=
  [.part .year, .literal '/', .part .month, .literal '/', .part .day, .blanks, .part .hour24,
    .literal ':', .part .minute, .literal ':', .part .second, .literal '.', .part .microsecond,
    .blanks, .part .offset]

theorem items?_defaultPattern :
    DatePattern.items? defaultPattern.toList = some defaultItems := rfl

end InstantFormat

theorem isBlank_digitChar : ∀ d < 10, Text.isBlank (digitChar d) = false := by decide

open DatePattern in
theorem DateTime.firstMatch?_spelled (t : DateTime) :
    firstMatch? InstantFormat.defaultItems t.spelled = some (t.captures, []) := by
  have hdigit (n : Nat) (rest : List Char) :
      ∀ next ∈ (padded 2 n ++ rest).head?, Text.isBlank next = false := by
    rintro _ ⟨rfl⟩
    exact isBlank_digitChar _ (Nat.mod_lt _ (by decide))
  have hsign (o : Offset) : ∀ next ∈ o.spelled.head?, Text.isBlank next = false := by
    rintro _ ⟨rfl⟩
    split <;> decide
  have hday := t.date.day_le
  have hoffset (o : Offset) :
      firstMatch? [.part .offset] o.spelled = some ([(.offset, o.spelled)], []) := by
    have htakes : (Item.part .offset).Takes o.spelled [(.offset, o.spelled)] [] :=
      takes_offset (by split <;> simp) (Nat.mod_lt _ (by decide)) _
    have h := firstMatch?_cons htakes (show firstMatch? [] [] = some ([], []) from rfl)
    rwa [List.append_nil] at h
  obtain ⟨hmonth, hmonth'⟩ := t.date.month_bounds
  exact
    firstMatch?_cons (takes_padded (by decide) (prefers_year _) _) <|
    firstMatch?_cons (takes_literal '/' _) <|
    firstMatch?_cons (takes_padded (by decide) (prefers_month _ hmonth' hmonth) _) <|
    firstMatch?_cons (takes_literal '/' _) <|
    firstMatch?_cons (takes_padded (by decide) (prefers_day _ hday t.date.day_bounds.1) _) <|
    firstMatch?_cons (takes_blanks (by decide) (hdigit _ _)) <|
    firstMatch?_cons (takes_padded (by decide) (prefers_hour _ t.time.hour_bound) _) <|
    firstMatch?_cons (takes_literal ':' _) <|
    firstMatch?_cons (takes_padded (by decide) (prefers_minute _ t.time.minute_bound) _) <|
    firstMatch?_cons (takes_literal ':' _) <|
    firstMatch?_cons (takes_padded (by decide) (prefers_second _ t.time.second_bound) _) <|
    firstMatch?_cons (takes_literal '.' _) <|
    firstMatch?_cons (takes_padded (by decide) (prefers_microsecond _) _) <|
    firstMatch?_cons (takes_blanks (by decide) (hsign _)) (hoffset _)

theorem TimeOfDay.make?_self (t : TimeOfDay) : make? t.hour t.minute t.second t.micro = some t :=
  dif_pos ⟨t.hour_bound, t.minute_bound, t.second_bound, t.micro_bound⟩

open DatePattern in
theorem DateTime.ofCaptures?_captures {t : DateTime} {o : Offset} (ho : t.offset = some o)
    (h : o.WholeMinutes) :
    Parts.ofCaptures? t.captures =
      some { year := t.date.year, month := t.date.month, day := t.date.day, hour := t.time.hour,
             minute := t.time.minute, second := t.time.second, micro := t.time.micro, offset := o } := by
  obtain ⟨-, hyear⟩ := t.date.year_bounds
  obtain ⟨-, hmonth⟩ := t.date.month_bounds
  have hday := t.date.day_le
  have hhour := t.time.hour_bound
  have hminute := t.time.minute_bound
  have hsecond := t.time.second_bound
  have hmicro := number_padded 6 t.time.micro_bound
  simp [Parts.ofCaptures?, captures, Parts.record?, microseconds, hmicro, ho,
    o.offsetMicros?_spelled h, o.make?_micros,
    number_padded 4 (n := t.date.year) (by omega),
    number_padded 2 (n := t.date.month) (by omega),
    number_padded 2 (n := t.date.day) (by omega),
    number_padded 2 (n := t.time.hour) (by omega),
    number_padded 2 (n := t.time.minute) (by omega),
    number_padded 2 (n := t.time.second) (by omega)]

theorem DateTime.read_spelled {t : DateTime} {o : Offset} (ho : t.offset = some o)
    (h : o.WholeMinutes) :
    DatePattern.read InstantFormat.defaultPattern.toList t.spelled = .ok t := by
  have hdistinct : DatePattern.isDistinct
      (InstantFormat.defaultItems.filterMap Item.directive?) = true := rfl
  simp only [DatePattern.read, InstantFormat.items?_defaultPattern, hdistinct, firstMatch?_spelled,
    ofCaptures?_captures ho h]
  simp [Parts.dateTime?, Parts.date?, Parts.weeksAgree, Parts.yearDay?, Date.make?_self,
    TimeOfDay.make?_self, ← ho]

-- ---------------------------------------------------------------------------
-- Blanks around a text
-- ---------------------------------------------------------------------------

namespace Text

theorem dropWhile_of_head {p : Char → Bool} {cs : List Char} (h : ∀ c ∈ cs.head?, p c = false) :
    cs.dropWhile p = cs := by
  cases cs with
  | nil => rfl
  | cons c cs => simp [h c rfl]

theorem trim_surrounded {left body right : List Char} (hleft : ∀ c ∈ left, isBlank c = true)
    (hright : ∀ c ∈ right, isBlank c = true) (hbody : body ≠ [])
    (hhead : ∀ c ∈ body.head?, isBlank c = false) (hlast : ∀ c ∈ body.getLast?, isBlank c = false) :
    trim (left ++ (body ++ right)) = body := by
  have hfront : (left ++ (body ++ right)).dropWhile isBlank = body ++ right := by
    rw [List.dropWhile_append_of_pos hleft]
    refine dropWhile_of_head fun c hc => hhead c ?_
    rwa [List.head?_append_of_ne_nil _ hbody] at hc
  have hback : (right.reverse ++ body.reverse).dropWhile isBlank = body.reverse := by
    rw [List.dropWhile_append_of_pos fun c hc => hright c (List.mem_reverse.mp hc)]
    exact dropWhile_of_head fun c hc => hlast c (by simpa using hc)
  rw [trim, hfront, List.reverse_append, hback, List.reverse_reverse]

theorem trim_of_none {cs : List Char} (h : ∀ c ∈ cs, isBlank c = false) : trim cs = cs := by
  have hback : ∀ c ∈ cs.reverse.head?, isBlank c = false := fun c hc =>
    h c (List.mem_reverse.mp (List.mem_of_mem_head? hc))
  rw [trim, dropWhile_of_head fun c hc => h c (List.mem_of_mem_head? hc), dropWhile_of_head hback,
    List.reverse_reverse]

theorem mem_dropWhile_of_not {p : Char → Bool} {c : Char} {cs : List Char} (h : p c = false)
    (hc : c ∈ cs) : c ∈ cs.dropWhile p := by
  have hsplit : c ∈ cs.takeWhile p ++ cs.dropWhile p := by
    rwa [List.takeWhile_append_dropWhile]
  refine (List.mem_append.mp hsplit).resolve_left fun hfront => ?_
  rw [List.all_eq_true.mp List.all_takeWhile c hfront] at h
  cases h

theorem mem_trim {c : Char} {cs : List Char} (h : isBlank c = false) (hc : c ∈ cs) :
    c ∈ trim cs :=
  List.mem_reverse.mpr <| mem_dropWhile_of_not h <| List.mem_reverse.mpr <|
    mem_dropWhile_of_not h hc

end Text

namespace InstantFormat

/-- The default pattern reads no text with a character that all its steps avoid. -/
theorem read_of_avoids {s : String} {c : Char} (h : ∀ item ∈ defaultItems, item.avoids c = true)
    (hc : c ∈ s.toList) : (ofPattern none).read (.text s) =
      .error (.input (.patternMismatch s defaultPattern)) := by
  have hblank : Text.isBlank c = false := by
    have hblanks := h .blanks (by simp [defaultItems])
    simpa [Item.avoids] using hblanks
  have htimestamp : (ofPattern none).isTimestamp = false := by decide
  have hread := DatePattern.read_of_avoids items?_defaultPattern rfl h (Text.mem_trim hblank hc)
  have hpattern : (ofPattern none).pattern = defaultPattern := rfl
  simp [read, readText, htimestamp, hpattern, Text.trimmed, hread, Except.map]

/-- A text spells a moment if it holds the moment's spelling between blanks. -/
def Spells (s : String) (t : DateTime) : Prop :=
  ∃ left right, (∀ c ∈ left ++ right, Text.isBlank c = true) ∧
    s.toList = left ++ (t.spelled ++ right)

theorem trim_spelled (t : DateTime) {left right : List Char}
    (h : ∀ c ∈ left ++ right, Text.isBlank c = true) :
    Text.trim (left ++ (t.spelled ++ right)) = t.spelled := by
  obtain ⟨hleft, hright⟩ := List.forall_mem_append.mp h
  refine Text.trim_surrounded hleft hright (List.cons_ne_nil _ _) ?_ ?_
  · rintro _ ⟨rfl⟩
    exact isBlank_digitChar _ (Nat.mod_lt _ (by decide))
  · rintro _ ⟨rfl⟩
    exact isBlank_digitChar _ (Nat.mod_lt _ (by decide))

theorem readText_spells {s : String} {t : DateTime} {o : Offset} (hs : Spells s t)
    (ho : t.offset = some o) (h : o.WholeMinutes) : standardFormat.readText s = .ok t.millis := by
  obtain ⟨left, right, hblank, htext⟩ := hs
  have htrimmed : Text.trimmed s = t.spelled := by
    rw [Text.trimmed, htext, trim_spelled t hblank]
  have hread : DatePattern.read standardFormat.pattern.toList t.spelled = .ok t :=
    t.read_spelled ho h
  have hpattern : standardFormat.isTimestamp = false := by decide
  simp [readText, hpattern, htrimmed, hread]

end InstantFormat

-- ---------------------------------------------------------------------------
-- Writing moments
-- ---------------------------------------------------------------------------

open DatePattern in
/-- A moment of a year with four digits is written as it is spelled. -/
theorem DateTime.written_spelled {t : DateTime} (ho : t.offset = some Offset.utc)
    (hyear : 1000 ≤ t.date.year) :
    written t (replaceFixed t (upToNull InstantFormat.defaultPattern.toList)) = t.spelled := by
  obtain ⟨-, hyear'⟩ := t.date.year_bounds
  obtain ⟨-, hmonth⟩ := t.date.month_bounds
  have hday := t.date.day_le
  have hhour := t.time.hour_bound
  have hminute := t.time.minute_bound
  have hsecond := t.time.second_bound
  have hfixed : replaceFixed t (upToNull InstantFormat.defaultPattern.toList) =
      '%' :: 'Y' :: '/' :: '%' :: 'm' :: '/' :: '%' :: 'd' :: ' ' :: '%' :: 'H' :: ':' ::
        '%' :: 'M' :: ':' :: '%' :: 'S' :: '.' :: (padded 6 t.time.micro ++ " +0000".toList) := rfl
  have hnumeral : Numeral.natDigits t.date.year = padded 4 t.date.year :=
    Numeral.natDigits_eq_padded 3 hyear (by omega)
  have hyearText : (Options.number {} ⟨1, false, t.date.year⟩).chars = padded 4 t.date.year := by
    rw [chars_number_long (by simp [hnumeral]), hnumeral]
  have hrest : ∀ c ∈ padded 6 t.time.micro ++ " +0000".toList, c ≠ '%' := by
    have hdigit : ∀ d < 10, digitChar d ≠ '%' := by decide
    refine List.forall_mem_append.mpr ⟨?_, by simp⟩
    rw [Numeral.padded_eq]
    exact List.forall_mem_map.mpr fun d hd => hdigit d (Numeral.decimal_fixedDigits _ _ d hd)
  have hzone : (t.offset.getD Offset.utc).spelled = "+0000".toList := by
    rw [ho]
    rfl
  have htail : written t (padded 6 t.time.micro ++ " +0000".toList) =
      padded 6 t.time.micro ++ " +0000".toList := by
    have happend : written t (_ ++ []) = _ ++ written t [] := written_append hrest
    rwa [written_nil, List.append_nil] at happend
  rw [hfixed, written_quantity (q := ⟨1, false, t.date.year⟩) rfl rfl, hyearText,
    written_char (by decide), written_padded (n := t.date.month) rfl rfl (by omega),
    written_char (by decide), written_padded (n := t.date.day) rfl rfl (by omega),
    written_char (by decide), written_padded (n := t.time.hour) rfl rfl (by omega),
    written_char (by decide), written_padded (n := t.time.minute) rfl rfl (by omega),
    written_char (by decide), written_padded (n := t.time.second) rfl rfl (by omega),
    written_char (by decide), htail, spelled, hzone]
  rfl

namespace InstantFormat

theorem write_ofMillis? {t : DateTime} {m : Int} (ht : DateTime.ofMillis? m = some t)
    (ho : t.offset = some Offset.utc) (hyear : 1000 ≤ t.date.year) :
    standardFormat.write m = .ok (String.ofList t.spelled) := by
  have hwritten := t.written_spelled ho hyear
  have hlength : (DatePattern.written t
      (DatePattern.replaceFixed t (DatePattern.upToNull defaultPattern.toList))).length < 1024 := by
    rw [hwritten]
    simp [DateTime.spelled, Offset.spelled]
  have htext : DatePattern.write t standardFormat.pattern.toList = t.spelled :=
    (DatePattern.write_of_length_lt hlength).trans hwritten
  have hpattern : standardFormat.isTimestamp = false := by decide
  have hhalf : Text.hasHalf standardFormat.pattern = false := by decide
  simp [write, hpattern, hhalf, ht, htext]

-- ---------------------------------------------------------------------------
-- Millisecond counts as texts
-- ---------------------------------------------------------------------------

def timestampFormat : InstantFormat := ofPattern (some timestampPattern)

/-- A predicate that fails on digits and on the minus sign fails on all numerals. -/
theorem forall_intDigits {p : Char → Bool} (hdigit : ∀ d < 10, p (digitChar d) = false)
    (hminus : p '-' = false) (m : Int) : ∀ c ∈ Numeral.intDigits m, p c = false := by
  have hdigits : ∀ c ∈ Numeral.natDigits m.natAbs, p c = false := by
    rw [Numeral.natDigits_eq]
    exact List.forall_mem_map.mpr fun d hd => hdigit d (Numeral.decimal_digits _ d hd)
  unfold Numeral.intDigits
  split
  · exact List.forall_mem_cons.mpr ⟨hminus, hdigits⟩
  · exact hdigits

theorem readInt?_intDigits {m : Int} (h : (Numeral.natDigits m.natAbs).length ≤ Numeral.maxDigits) :
    Numeral.readInt? (Numeral.intDigits m) = some m := by
  have hmargin := forall_intDigits Binary64.isMargin_digitChar (by decide) m
  have hread := Numeral.readNat?_natDigits h
  rw [Numeral.readInt?, Binary64.trimMargins_of_none hmargin, Numeral.intDigits]
  by_cases hnegative : m < 0
  · rw [if_pos hnegative]
    have hvalue : -(m.natAbs : Int) = m := by omega
    simpa [hread] using hvalue
  · have hsign : ∀ d < 10, digitChar d ≠ '-' ∧ digitChar d ≠ '+' := by decide
    obtain ⟨d, hd, rest, hdigits⟩ := Numeral.exists_natDigits m.natAbs
    obtain ⟨hminus, hplus⟩ := hsign d hd
    rw [if_neg hnegative]
    split
    · next heq => exact absurd (List.cons.inj (hdigits.symm.trans heq)).1 hminus
    · next heq => exact absurd (List.cons.inj (hdigits.symm.trans heq)).1 hplus
    · have hvalue : (m.natAbs : Int) = m := by omega
      simpa [hread] using hvalue

theorem read_digits {m : Int} (h : (Nat.digits 10 m.natAbs).length ≤ 4300) :
    timestampFormat.read (.text (Numeral.ofInt m)) = .ok (some m) := by
  have hlength : (Numeral.natDigits m.natAbs).length ≤ Numeral.maxDigits := by
    rw [Numeral.natDigits_eq, List.length_map, Numeral.digits]
    split
    · decide
    · show (Nat.digits 10 m.natAbs).reverse.length ≤ 4300
      simpa using h
  have htrimmed : Text.trimmed (Numeral.ofInt m) = Numeral.intDigits m := by
    rw [Text.trimmed, Numeral.ofInt, String.toList_ofList]
    exact Text.trim_of_none (forall_intDigits isBlank_digitChar (by decide) m)
  have hpattern : timestampFormat.isTimestamp = true := by decide
  simp [read, readText, hpattern, htrimmed, readInt?_intDigits hlength, Except.map]

-- ---------------------------------------------------------------------------
-- Writing, then reading
-- ---------------------------------------------------------------------------

/-- The first moment of a year with four digits, and the last millisecond of the calendar. -/
def firstWritten : DateTime :=
  ⟨⟨1000, 1, 1, by decide, Date.epoch.month_bounds, by decide⟩, .midnight, some .utc⟩

def lastWritten : DateTime :=
  ⟨⟨9999, 12, 31, by decide, by decide, by decide⟩,
    ⟨23, 59, 59, 999000, by decide, by decide, by decide, by decide⟩, some .utc⟩

/-- A count that is written under the default pattern or as a numeral is read back. -/
theorem read_write_millis (m : Int) :
    (firstWritten.millis ≤ m → m ≤ lastWritten.millis →
      ∃ text, standardFormat.write m = .ok text ∧
        standardFormat.read (.text text) = .ok (some m)) ∧
    ((Nat.digits 10 m.natAbs).length ≤ 4300 →
      ∃ text, timestampFormat.write m = .ok text ∧
        timestampFormat.read (.text text) = .ok (some m)) := by
  constructor
  · intro hfirst hlast
    have hfirst' : firstWritten.millis = -30610224000000 := by decide
    have hlast' : lastWritten.millis = 253402300799999 := by decide
    obtain ⟨t, ht, hmillis, hday, ho⟩ := DateTime.exists_ofMillis? (m := m) (by omega) (by omega)
    have hyear : 1000 ≤ t.date.year := by
      by_contra hearly
      have hmono := Calendar.daysBeforeYear_mono (show t.date.year + 1 ≤ 1000 by omega)
      have hsucc := Calendar.daysBeforeYear_succ t.date.year_bounds.1
      have hbefore : Calendar.daysBeforeYear 1000 = 364877 := rfl
      have hlt := t.date.dayOfYear_lt
      simp only [Date.dayNumber, Calendar.epochDays] at hday
      omega
    refine ⟨_, write_ofMillis? ht ho hyear, ?_⟩
    have hspells : Spells (String.ofList t.spelled) t := ⟨[], [], by simp, by simp⟩
    simp [read, readText_spells hspells ho ⟨0, rfl⟩, hmillis, Except.map]
  · intro hdigits
    exact ⟨Numeral.ofInt m, by simp [write, show timestampFormat.isTimestamp = true from by decide],
      read_digits hdigits⟩

theorem read_write_millis_first :
    (∃ text, standardFormat.write (-30610224000000) = .ok text ∧
      standardFormat.read (.text text) = .ok (some (-30610224000000))) ∧
    (∃ text, timestampFormat.write (-30610224000000) = .ok text ∧
      timestampFormat.read (.text text) = .ok (some (-30610224000000))) :=
  ⟨(read_write_millis (-30610224000000)).1 (by decide) (by decide),
    (read_write_millis (-30610224000000)).2 (by norm_num)⟩

-- ---------------------------------------------------------------------------
-- One moment, many values
-- ---------------------------------------------------------------------------

/-- The values that denote the moment a number of microseconds after the epoch: date-times, dates
for their midnights, and the texts that spell date-times. -/
inductive Denotes : Value → Int → Prop
  | dateTime {t : DateTime} {x : Int} (elapsed : t.Elapsed x) : Denotes (.dateTime t) x
  | date {d : Date} {x : Int} (elapsed : DateTime.Elapsed ⟨d, .midnight, some .utc⟩ x) :
      Denotes (.date d) x
  | text {s : String} {t : DateTime} {o : Offset} {x : Int} (spells : Spells s t)
      (offset : t.offset = some o) (whole : o.WholeMinutes) (elapsed : t.Elapsed x) :
      Denotes (.text s) x

theorem Denotes.read {v : Value} {x : Int} (h : Denotes v x) :
    standardFormat.read v = .ok (some (x.fdiv 1000)) := by
  cases h with
  | dateTime elapsed | date elapsed =>
    obtain rfl := DateTime.elapsed_iff.mp elapsed
    rfl
  | text spells offset whole elapsed =>
    obtain rfl := DateTime.elapsed_iff.mp elapsed
    simp only [InstantFormat.read, readText_spells spells offset whole, Except.map]
    rfl

end InstantFormat

namespace BitemporalMapper

variable {m : BitemporalMapper} {record other : Record}

/-- A mapper stores what the instants of the columns are, whatever values they are given by. -/
theorem documentFields_congr
    (h : ∀ axis, m.format.read (record.column (m.columns.get axis)) =
      m.format.read (other.column (m.columns.get axis))) :
    m.documentFields record = m.documentFields other := by
  have hends : m.readEnds record = m.readEnds other :=
    congrArg Ends.forAll? (funext fun axis => by simp only [readInstant, h axis])
  simp only [documentFields, store, hends]

end BitemporalMapper

namespace InstantFormat

/-- A date-time and the texts that spell it are read as the whole milliseconds that have elapsed
from the epoch. So values of one moment are stored alike, and moments stay in their order. -/
theorem read_moment :
    (∀ t : DateTime, ∃ x, (∀ y, t.Elapsed y ↔ y = x) ∧
      standardFormat.read (.dateTime t) = .ok (some (x.fdiv 1000)) ∧
      ∀ o s, t.offset = some o → o.WholeMinutes → Spells s t →
        standardFormat.read (.text s) = .ok (some (x.fdiv 1000))) ∧
    (∀ (m : BitemporalMapper) (record other : Record), m.format = standardFormat →
      (∀ axis, record.column (m.columns.get axis) = other.column (m.columns.get axis) ∨
        ∃ x, Denotes (record.column (m.columns.get axis)) x ∧
          Denotes (other.column (m.columns.get axis)) x) →
      m.documentFields record = m.documentFields other) ∧
    (∀ v w x y, Denotes v x → Denotes w y → x ≤ y →
      ∃ i j, standardFormat.read v = .ok (some i) ∧ standardFormat.read w = .ok (some j) ∧
        i ≤ j) := by
  refine ⟨fun t => ?_, fun m record other hformat h => ?_, fun v w x y hv hw hle => ?_⟩
  · have helapsed : t.Elapsed t.micros := DateTime.elapsed_iff.mpr rfl
    exact ⟨t.micros, fun y => DateTime.elapsed_iff, (Denotes.dateTime helapsed).read,
      fun o s ho hwhole hs => (Denotes.text hs ho hwhole helapsed).read⟩
  · refine BitemporalMapper.documentFields_congr fun axis => ?_
    rw [hformat]
    obtain heq | ⟨x, hrecord, hother⟩ := h axis
    · rw [heq]
    · rw [hrecord.read, hother.read]
  · refine ⟨_, _, hv.read, hw.read, ?_⟩
    rw [Int.fdiv_eq_ediv_of_nonneg _ (by decide), Int.fdiv_eq_ediv_of_nonneg _ (by decide)]
    exact Int.ediv_le_ediv (by decide) hle

/-- Half past midnight in universal time, an hour to the west of which February has not ended. -/
def leapNight : DateTime :=
  ⟨⟨2024, 3, 1, by decide, by decide, by decide⟩, .ofMicros 1800000000, some .utc⟩

def leapNightWest : DateTime :=
  ⟨⟨2024, 2, 29, by decide, by decide, by decide⟩, .ofMicros 84600000000,
    some ⟨-3600000000, by decide, by decide⟩⟩

def leapNightText : String := " 2024/02/29 23:30:00.000000 -0100\n"

theorem read_moment_leapNight :
    let m : BitemporalMapper :=
      ⟨"at", ⟨"at", "at", "at", "at"⟩, standardFormat, nowMillis, Nat.le_refl _⟩
    standardFormat.read (.text leapNightText) = .ok (some 1709253000000) ∧
    m.documentFields (OrderedMap.ofList [("at", .text leapNightText)]) =
      m.documentFields (OrderedMap.ofList [("at", .dateTime leapNight)]) ∧
    ∃ i j, standardFormat.read (.text leapNightText) = .ok (some i) ∧
      standardFormat.read (.dateTime leapNight) = .ok (some j) ∧ i ≤ j := by
  have hspells : Spells leapNightText leapNightWest :=
    ⟨[' '], ['\n'], List.all_eq_true.mp (by decide), by rfl⟩
  have hwhole : Offset.WholeMinutes ⟨-3600000000, by decide, by decide⟩ := ⟨-60, by decide⟩
  have hwest : leapNightWest.Elapsed 1709253000000000 := DateTime.elapsed_iff.mpr (by decide)
  have hnight : leapNight.Elapsed 1709253000000000 := DateTime.elapsed_iff.mpr (by decide)
  have htext : Denotes (.text leapNightText) 1709253000000000 := .text hspells rfl hwhole hwest
  have htime : Denotes (.dateTime leapNight) 1709253000000000 := .dateTime hnight
  obtain ⟨hread, hstored, hordered⟩ := read_moment
  refine ⟨?_, hstored _ _ _ rfl fun axis => .inr ⟨1709253000000000, ?_⟩,
    hordered _ _ _ _ htext htime (Int.le_refl _)⟩
  · obtain ⟨x, helapsed, -, hspelled⟩ := hread leapNightWest
    rw [hspelled _ _ rfl hwhole hspells, ← (helapsed _).mp hwest]
    rfl
  · cases axis <;> exact ⟨htext, htime⟩

end InstantFormat

end Bitemporal
