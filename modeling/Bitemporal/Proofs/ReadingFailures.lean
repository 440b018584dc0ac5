import Bitemporal.Proofs.NumericInstants
import Bitemporal.Proofs.ShownValues

/-!
# How reading an instant fails

Whatever cannot be read as an instant is meant to be refused with an argument error. Two kinds of
values escape: integers without a double, and texts under a pattern that asks for a part of a date
twice. `decides_iff` follows both through a format, the open end that a mapper is made with, and the
columns that it reads. An open end that is refused must also be shown in the message that says so,
and lists and objects exist that cannot be shown.
-/

namespace Bitemporal

-- ---------------------------------------------------------------------------
-- Errors that are meant
-- ---------------------------------------------------------------------------

namespace Error

/-- How an input value fails, for an error about an input value. -/
def inputKind? : Error → Option InputKind
  | .input cause => some cause.kind
  | _ => none

def isConfiguration : Error → Bool
  | .configuration _ => true
  | _ => false

end Error

-- ---------------------------------------------------------------------------
-- Patterns that ask twice
-- ---------------------------------------------------------------------------

namespace DatePattern

theorem isDistinct_iff {parts : List Directive} : isDistinct parts = true ↔ parts.Nodup := by
  induction parts with
  | nil => simp [isDistinct]
  | cons d rest ih => simp [isDistinct, ih]

/-- The pattern can be read by, but for asking for the same part twice. -/
def Repeats (pattern : List Char) : Prop :=
  ∃ items, items? pattern = some items ∧ ¬ (items.filterMap Item.directive?).Nodup

theorem read_repeated_iff {pattern text : List Char} :
    read pattern text = .error .repeated ↔ Repeats pattern := by
  unfold read Repeats
  cases items? pattern with
  | none => simp
  | some items =>
    simp only [Option.some.injEq, exists_eq_left', ← isDistinct_iff]
    cases isDistinct (items.filterMap Item.directive?) with
    | false => simp
    | true =>
      simp only [Bool.not_true, Bool.false_eq_true, if_false, not_true_eq_false, iff_false]
      split
      · split <;> simp
      · simp

end DatePattern

-- ---------------------------------------------------------------------------
-- Reading
-- ---------------------------------------------------------------------------

namespace InstantFormat

variable {f : InstantFormat} {v : Value} {e : Error}

/-- No text can be read by the format's pattern, because it asks for a part twice. -/
def Repeats (f : InstantFormat) : Prop :=
  f.isTimestamp = false ∧ DatePattern.Repeats f.pattern.toList

/-- The format has an answer for the value: an instant, or that it is none. -/
structure Decides (f : InstantFormat) (v : Value) : Prop where
  bounded : v.Bounded
  distinct : ∀ s, v = .text s → ¬ f.Repeats

theorem readText_error (s : String) (h : f.readText s = .error e) :
    (e = .directiveRepeated ∧ f.Repeats) ∨ (e.inputKind? = some .argument ∧ ¬ f.Repeats) := by
  unfold readText at h
  unfold Repeats
  cases htimestamp : f.isTimestamp with
  | true =>
    rw [htimestamp, if_pos rfl] at h
    split at h
    · cases h
    · cases h
      exact .inr ⟨rfl, by simp⟩
  | false =>
    rw [htimestamp, if_neg Bool.false_ne_true] at h
    split at h
    case h_1 => cases h
    case h_2 hread =>
      cases h
      rw [← DatePattern.read_repeated_iff, hread]
      exact .inr ⟨rfl, by simp⟩
    case h_3 hread =>
      cases h
      exact .inl ⟨rfl, rfl, DatePattern.read_repeated_iff.mp hread⟩

theorem readText_repeated (s : String) (h : f.Repeats) :
    f.readText s = .error .directiveRepeated := by
  obtain ⟨htimestamp, hrepeats⟩ := h
  rw [readText, htimestamp, if_neg Bool.false_ne_true, DatePattern.read_repeated_iff.mpr hrepeats]

/-- Every error of reading, by the value that it is about. -/
theorem read_error (h : f.read v = .error e) :
    (e = .overflow ∧ ¬ v.Bounded) ∨
      (e = .directiveRepeated ∧ f.Repeats ∧ ∃ s, v = .text s) ∨
      (e.inputKind? = some .argument ∧ f.Decides v) := by
  have hdecides (hv : v.Bounded) (htext : ∀ s, v ≠ .text s) : f.Decides v :=
    ⟨hv, fun s hs => absurd hs (htext s)⟩
  cases v with
  | null => cases h
  | int n =>
    by_cases hn : (Value.int n).Bounded
    · rw [read, if_pos (Binary64.isSome_ofInt?_iff.mpr hn)] at h
      cases h
    · rw [read_unbounded f hn] at h
      cases h
      exact .inl ⟨rfl, hn⟩
  | float x =>
    rw [read] at h
    split at h
    · cases h
    · cases h
      exact .inr (.inr ⟨rfl, hdecides trivial (by simp)⟩)
  | text s =>
    have hs : f.readText s = .error e := by
      rw [read] at h
      cases hread : f.readText s with
      | error e' =>
        rw [hread] at h
        cases h
        rfl
      | ok n =>
        rw [hread] at h
        cases h
    rcases readText_error s hs with ⟨he, hrepeats⟩ | ⟨he, hdistinct⟩
    · exact .inr (.inl ⟨he, hrepeats, s, rfl⟩)
    · exact .inr (.inr ⟨he, trivial, fun _ _ => hdistinct⟩)
  | date d => cases h
  | dateTime t => cases h
  | bool | bytes | list | object =>
    cases h
    exact .inr (.inr ⟨rfl, hdecides trivial (by simp)⟩)

theorem read_text_repeated (s : String) (h : f.Repeats) :
    f.read (.text s) = .error .directiveRepeated := by
  rw [read, readText_repeated s h]
  rfl

/-- A format that has no answer fails with one of two errors, and neither is an argument error. -/
theorem read_of_not_decides (h : ¬ f.Decides v) :
    f.read v = .error .overflow ∨ f.read v = .error .directiveRepeated := by
  by_cases hv : v.Bounded
  · have htext : ∃ s, v = .text s ∧ f.Repeats := by
      by_contra hnone
      exact h ⟨hv, fun s hs hrepeats => hnone ⟨s, hs, hrepeats⟩⟩
    obtain ⟨s, rfl, hrepeats⟩ := htext
    exact .inr (read_text_repeated s hrepeats)
  · exact .inl (read_unbounded f hv)

theorem showable_of_bounded {n : Int} (h : (Value.int n).Bounded) : (Value.int n).Showable := by
  have hlimit : Binary64.intLimit ≤ 10 ^ Numeral.maxDigits := by decide +kernel
  exact Value.showable_int (h.trans_le hlimit)

/-- All that is read as an instant can be shown. -/
theorem showable_of_read_ok {n : Option Int} (h : f.read v = .ok n) : v.Showable := by
  cases v with
  | int k =>
    refine showable_of_bounded ?_
    by_contra hk
    rw [read_unbounded f hk] at h
    cases h
  | dateTime t =>
    refine Value.showable_of_shallow ?_ fun k hk => by cases hk
    rw [Value.depth, Value.offsetDepth]
    split
    · decide
    · split <;> decide
  | bool | bytes | list | object => cases h
  | null | float | text | date =>
    exact Value.showable_of_shallow (by simp [Value.depth]) fun k hk => by cases hk

theorem argument_errors_iff :
    (∀ e, f.read v = .error e → e.inputKind? = some .argument) ↔ f.Decides v := by
  constructor
  · intro h
    by_contra hundecided
    rcases read_of_not_decides hundecided with hread | hread
    · cases h _ hread
    · cases h _ hread
  · intro hdecides e he
    rcases read_error he with ⟨-, hv⟩ | ⟨-, hrepeats, s, rfl⟩ | ⟨hkind, -⟩
    · exact absurd hdecides.bounded hv
    · exact absurd hrepeats (hdecides.distinct s rfl)
    · exact hkind

end InstantFormat

-- ---------------------------------------------------------------------------
-- Mappers
-- ---------------------------------------------------------------------------

theorem Ends.exists_forAll?_error {ε α : Type} {f : Axis → Except ε α} {e : ε}
    (h : forAll? f = .error e) : ∃ axis, f axis = .error e := by
  have hfilled {a : Axis} (ha : ¬ ∃ e', f a = .error e') : ∃ v, f a = .ok v := by
    cases hf : f a with
    | ok v => exact ⟨v, rfl⟩
    | error e' => exact absurd ⟨e', hf⟩ ha
  by_cases hfails : ∃ axis e', f axis = .error e'
  · obtain ⟨axis, ⟨e', he'⟩, hbefore⟩ := Axis.exists_first hfails
    have hfirst := forAll?_error axis (fun a ha => hfilled (hbefore a ha)) he'
    rw [h] at hfirst
    cases hfirst
    exact ⟨axis, he'⟩
  · choose value hvalue using fun a => hfilled (not_exists.mp hfails a)
    have hok : forAll? f = .ok (ofFn value) :=
      forAll?_ok.mpr fun a => by rw [get_ofFn, hvalue a]
    rw [h] at hok
    cases hok

namespace BitemporalMapper

variable {m : BitemporalMapper} {field pattern : Option String} {columns : Ends (Option String)}
  {f : InstantFormat} {now v : Value} {e : Error}

/-- The names that a mapper needs are there and not blank. -/
structure Named (field : Option String) (columns : Ends (Option String)) : Prop where
  columns : ∀ axis, ∃ name, columns.get axis = some name ∧ Text.allBlank name = false
  field : ∃ name, field = some name ∧ Text.allBlank name = false

theorem requireColumn_ok {axis : Axis} {name : Option String} {s : String} :
    requireColumn axis name = .ok s ↔ name = some s ∧ Text.allBlank s = false := by
  unfold requireColumn
  cases name with
  | none => simp
  | some t => cases h : Text.allBlank t <;> simp [h] <;> grind

theorem requireColumn_error {axis : Axis} {name : Option String}
    (h : requireColumn axis name = .error e) : e = .configuration (.columnRequired axis) := by
  unfold requireColumn at h
  split at h
  · split at h
    · cases h
      rfl
    · cases h
  · cases h
    rfl

theorem requireField_error {name : Option String} (h : requireField name = .error e) :
    e = .configuration .fieldRequired := by
  unfold requireField at h
  split at h
  · split at h
    · cases h
      rfl
    · cases h
  · cases h
    rfl

theorem resolveNow_of_not_showable (hdecides : f.Decides now) (h : ¬ now.Showable) :
    ∃ fault, resolveNow f now = .error (.unshown fault) := by
  cases hread : f.read now with
  | ok n => exact absurd (InstantFormat.showable_of_read_ok hread) h
  | error e =>
    have hkind := InstantFormat.argument_errors_iff.mpr hdecides e hread
    cases e with
    | input cause =>
      obtain ⟨fault, hfault⟩ :=
        Error.showing_of_not_showable (e := .configuration (.unreadableNow now cause)) h
      exact ⟨fault, by simp only [resolveNow, hread, hfault]⟩
    | _ => cases hkind

/-- Reading the open end fails with the errors of configuration, unless the format fails or the
value that is refused cannot be shown. -/
theorem resolveNow_errors_iff :
    (∀ e, resolveNow f now = .error e → e.isConfiguration = true) ↔
      f.Decides now ∧ now.Showable := by
  constructor
  · intro h
    have hdecides : f.Decides now := by
      by_contra hundecided
      rcases InstantFormat.read_of_not_decides hundecided with hread | hread
      · cases h .overflow (by rw [resolveNow, hread])
      · cases h .directiveRepeated (by rw [resolveNow, hread])
    refine ⟨hdecides, ?_⟩
    by_contra hunshown
    obtain ⟨fault, hfault⟩ := resolveNow_of_not_showable hdecides hunshown
    cases h _ hfault
  · rintro ⟨hdecides, hshowable⟩ e he
    unfold resolveNow at he
    split at he
    · cases he
    · split at he
      · cases he
      · cases he
        rw [Error.showing_of_showable hshowable]
        rfl
    · cases he
      rw [Error.showing_of_showable hshowable]
      rfl
    · next e' hnotInput hread =>
      have hkind := InstantFormat.argument_errors_iff.mpr hdecides e' hread
      cases e' with
      | input cause => exact absurd rfl (hnotInput cause)
      | _ => cases hkind

theorem make_eq {names : Ends String} {name : String}
    (hcolumns : ∀ axis, requireColumn axis (columns.get axis) = .ok (names.get axis))
    (hfield : requireField field = .ok name) (pattern : Option String) (now : Value) :
    make field columns pattern now = (resolveNow (InstantFormat.ofPattern pattern) now).map
      fun n => ⟨name, names, InstantFormat.ofPattern pattern, n.millis, n.le_now⟩ := by
  have hall : (Ends.forAll? fun axis => requireColumn axis (columns.get axis)) = .ok names :=
    Ends.forAll?_ok.mpr hcolumns
  simp only [make, hall, hfield, bind, Except.bind]
  cases resolveNow (InstantFormat.ofPattern pattern) now <;> rfl

theorem make_of_not_named (h : ¬ Named field columns) (pattern : Option String) (now : Value) :
    ∃ cause, make field columns pattern now = .error (.configuration cause) := by
  cases hcolumns : Ends.forAll? fun axis => requireColumn axis (columns.get axis) with
  | error e =>
    obtain ⟨axis, haxis⟩ := Ends.exists_forAll?_error hcolumns
    obtain rfl := requireColumn_error haxis
    exact ⟨.columnRequired axis, by simp only [make, hcolumns, bind, Except.bind]⟩
  | ok names =>
    cases hfield : requireField field with
    | error e =>
      obtain rfl := requireField_error hfield
      exact ⟨.fieldRequired, by simp only [make, hcolumns, hfield, bind, Except.bind]⟩
    | ok name =>
      refine absurd ⟨fun axis => ?_, name, requireField_ok.mp hfield⟩ h
      exact ⟨names.get axis, requireColumn_ok.mp (Ends.forAll?_ok.mp hcolumns axis)⟩

/-- With all names there, a mapper is made of what stands for its open end. -/
theorem Named.make_eq (h : Named field columns) (pattern : Option String) (now : Value) :
    ∃ (names : Ends String) (name : String), make field columns pattern now =
      (resolveNow (InstantFormat.ofPattern pattern) now).map
        fun n => ⟨name, names, InstantFormat.ofPattern pattern, n.millis, n.le_now⟩ := by
  choose name hname using h.columns
  obtain ⟨fieldName, hfield⟩ := h.field
  have hcolumns (axis : Axis) :
      requireColumn axis (columns.get axis) = .ok ((Ends.ofFn name).get axis) := by
    rw [Ends.get_ofFn, requireColumn_ok.mpr (hname axis)]
  exact ⟨_, _, BitemporalMapper.make_eq hcolumns (requireField_ok.mpr hfield) pattern now⟩

theorem configuration_errors_iff :
    (∀ e, make field columns pattern now = .error e → e.isConfiguration = true) ↔
      (Named field columns → (InstantFormat.ofPattern pattern).Decides now ∧ now.Showable) := by
  by_cases hnamed : Named field columns
  · obtain ⟨names, name, hmake⟩ := hnamed.make_eq pattern now
    rw [← resolveNow_errors_iff, hmake, forall_prop_of_true hnamed]
    cases resolveNow (InstantFormat.ofPattern pattern) now <;> simp [Except.map]
  · obtain ⟨cause, hmake⟩ := make_of_not_named hnamed pattern now
    rw [hmake]
    refine iff_of_true (fun e he => ?_) fun h => absurd h hnamed
    cases he
    rfl

theorem make_of_not_showable (hnamed : Named field columns)
    (hdecides : (InstantFormat.ofPattern pattern).Decides now) (h : ¬ now.Showable) :
    ∃ fault, make field columns pattern now = .error (.unshown fault) := by
  obtain ⟨names, name, hmake⟩ := hnamed.make_eq pattern now
  obtain ⟨fault, hfault⟩ := resolveNow_of_not_showable hdecides h
  exact ⟨fault, by rw [hmake, hfault]; rfl⟩

theorem instantOfMillis_error {n : Int} {cause : InputError}
    (h : m.instantOfMillis n = .error cause) : cause.kind = .argument ∨ cause.kind = .range := by
  unfold instantOfMillis at h
  split at h
  · cases h
    exact .inr rfl
  · split at h
    · cases h
    · unfold Instant.ofMillis at h
      split at h
      · cases h
        exact .inl rfl
      · split at h
        · cases h
        · cases h
          exact .inl rfl

theorem instant_errors_iff :
    (∀ e, m.readInstant v = .error e →
      e.inputKind? = some .argument ∨ e.inputKind? = some .range) ↔ m.format.Decides v := by
  constructor
  · intro h
    by_contra hundecided
    rcases InstantFormat.read_of_not_decides hundecided with hread | hread
    · have hinstant : m.readInstant v = .error .overflow := by rw [readInstant, hread]
      rcases h _ hinstant with hkind | hkind <;> cases hkind
    · have hinstant : m.readInstant v = .error .directiveRepeated := by rw [readInstant, hread]
      rcases h _ hinstant with hkind | hkind <;> cases hkind
  · intro hdecides e he
    unfold readInstant at he
    split at he
    · next e' hread =>
      cases he
      exact .inl (InstantFormat.argument_errors_iff.mpr hdecides _ hread)
    · cases he
    · split at he
      · cases he
      · next cause hcause =>
        cases he
        rcases instantOfMillis_error hcause with hkind | hkind
        · exact .inl (congrArg some hkind)
        · exact .inr (congrArg some hkind)

/-- Everything that a format decides on is read or refused as meant: by the format with an argument
error, by a mapper with an argument or range error, and as an open end with an error of
configuration, which shows the value. On everything else it fails otherwise. -/
theorem decides_iff (f : InstantFormat) (m : BitemporalMapper) (field : Option String)
    (columns : Ends (Option String)) (pattern : Option String) (now v : Value) :
    (f.read v = .ok none ↔ v = .null) ∧
    ((∀ e, f.read v = .error e → e.inputKind? = some .argument) ↔ f.Decides v) ∧
    ((∀ e, make field columns pattern now = .error e → e.isConfiguration = true) ↔
      (Named field columns → (InstantFormat.ofPattern pattern).Decides now ∧ now.Showable)) ∧
    ((∀ e, m.readInstant v = .error e →
      e.inputKind? = some .argument ∨ e.inputKind? = some .range) ↔ m.format.Decides v) ∧
    (¬ f.Decides v → f.read v = .error .overflow ∨ f.read v = .error .directiveRepeated) ∧
    (Named field columns → (InstantFormat.ofPattern pattern).Decides now → ¬ now.Showable →
      ∃ fault, make field columns pattern now = .error (.unshown fault)) :=
  ⟨InstantFormat.read_none_iff, InstantFormat.argument_errors_iff, configuration_errors_iff,
    instant_errors_iff, InstantFormat.read_of_not_decides, make_of_not_showable⟩

def dayTwice : String := "%d/%d"

theorem repeats_dayTwice : (InstantFormat.ofPattern (some dayTwice)).Repeats :=
  ⟨by decide, [.part .day, .literal '/', .part .day], rfl, by decide⟩

def upToNowByDays : BitemporalMapper :=
  ⟨"name", Ends.ofFn Axis.column, InstantFormat.ofPattern (some dayTwice), nowMillis,
    Nat.le_refl nowMillis⟩

def longList : Value := .list [.int (10 ^ 5000)]

theorem not_showable_pow {exponent : Nat} (h : Numeral.maxDigits ≤ exponent) :
    ¬ (Value.list [.int (10 ^ exponent)]).Showable := by
  intro hshowable
  have hlt := hshowable.writable (10 ^ exponent) (.item List.mem_cons_self .self)
  have hten : (10 : Int).natAbs = 10 := rfl
  rw [Int.natAbs_pow, hten, Nat.pow_lt_pow_iff_right (by decide)] at hlt
  exact absurd h (Nat.not_le.mpr hlt)

theorem not_showable_longList : ¬ longList.Showable := not_showable_pow (by decide)

/-- A text and an integer that fail otherwise, with a format and with the mappers that use it, and a
list that does so as an open end. -/
theorem fails_otherwise :
    (¬ ∀ e, (InstantFormat.ofPattern (some dayTwice)).read (.text "1/1") = .error e →
      e.inputKind? = some .argument) ∧
    (¬ ∀ e, (InstantFormat.ofPattern none).read .behindDoubles = .error e →
      e.inputKind? = some .argument) ∧
    (¬ ∀ e, make (some "name") (Ends.ofFn fun axis => some axis.column) (some dayTwice)
      (.text "1/1") = .error e → e.isConfiguration = true) ∧
    (¬ ∀ e, upToNowByDays.readInstant (.text "1/1") = .error e →
      e.inputKind? = some .argument ∨ e.inputKind? = some .range) ∧
    (¬ ∀ e, make (some "name") (Ends.ofFn fun axis => some axis.column) none longList = .error e →
      e.isConfiguration = true) := by
  have htext : ¬ (InstantFormat.ofPattern (some dayTwice)).Decides (.text "1/1") :=
    fun h => h.distinct "1/1" rfl repeats_dayTwice
  have hint : ¬ (InstantFormat.ofPattern none).Decides .behindDoubles :=
    fun h => Value.not_bounded_behindDoubles h.bounded
  have hnamed : Named (some "name") (Ends.ofFn fun axis => some axis.column) :=
    ⟨fun axis => ⟨axis.column, Ends.get_ofFn _ axis, by cases axis <;> decide⟩, "name", rfl,
      by decide⟩
  rw [InstantFormat.argument_errors_iff, InstantFormat.argument_errors_iff,
    configuration_errors_iff, configuration_errors_iff, instant_errors_iff]
  exact ⟨htext, hint, fun h => htext (h hnamed).1, htext,
    fun h => not_showable_longList (h hnamed).2⟩

end BitemporalMapper

end Bitemporal
