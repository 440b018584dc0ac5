import Bitemporal.CommandLine.Run
import Bitemporal.Proofs.ConsoleMarks
import Bitemporal.Proofs.DigitTexts
import Bitemporal.Proofs.MomentText
import Bitemporal.Proofs.OptionSpelling
import Bitemporal.Proofs.ReadingFailures

/-!
# How showing an interval ends

The command that shows what is stored of one interval is meant to end in one of three ways: with the
stored fields, with the remark that nothing is stored, or with a reported error. `run_assign` says
that it does unless an error escapes, and which texts make one escape: those that are taken for a
count and cannot be read as one, counts without a double, and those that make an answer which the
console refuses to print. A console that reads marks refuses the answers that close a mark which is
not open.
-/

namespace Bitemporal.CommandLine

-- ---------------------------------------------------------------------------
-- Values of arguments
-- ---------------------------------------------------------------------------

/-- The value that an argument stands for, which may be absent. -/
inductive Stands : Option String → Value → Prop
  | absent : Stands none .null
  | count {arg : String} (looks : Text.LooksLikeCount arg) (read : ¬ Numeral.Unreadable arg) :
    Stands (some arg) (.int (Numeral.countOf arg))
  | text {arg : String} (other : ¬ Text.LooksLikeCount arg) : Stands (some arg) (.text arg)

section

variable {arg : String} {given : Option String} {v : Value}

theorem looksLikeCount_iff :
    (!(Text.trimmed arg).isEmpty && (Text.trimmed arg).all Text.isDigitLike) = true ↔
      Text.LooksLikeCount arg := by
  rw [Bool.and_eq_true, Bool.not_eq_true', List.isEmpty_eq_false_iff, List.all_eq_true]
  rfl

theorem argumentValue_text (h : ¬ Text.LooksLikeCount arg) :
    argumentValue arg = .ok (.text arg) :=
  if_neg (mt looksLikeCount_iff.mp h)

theorem argumentValue_count (h : Text.LooksLikeCount arg) : argumentValue arg =
    match Numeral.readInt? arg.toList with
    | some n => .ok (.millis n)
    | none => .error .numeralNotReadable :=
  if_pos (looksLikeCount_iff.mpr h)

theorem optionalValue_unreadable (h : Text.LooksLikeCount arg)
    (hunreadable : Numeral.Unreadable arg) :
    optionalValue (some arg) = .error .numeralNotReadable := by
  rw [optionalValue, argumentValue_count h, Numeral.readInt?_of_unreadable h hunreadable]
  rfl

theorem Stands.optionalValue (h : Stands given v) :
    ∃ bound, CommandLine.optionalValue given = .ok bound ∧
      (bound.map Bound.value).getD .null = v := by
  cases h with
  | absent => exact ⟨none, rfl, rfl⟩
  | count looks read =>
    rw [CommandLine.optionalValue, argumentValue_count looks, Numeral.readInt?_count looks read]
    exact ⟨_, rfl, rfl⟩
  | text other =>
    rw [CommandLine.optionalValue, argumentValue_text other]
    exact ⟨_, rfl, rfl⟩

theorem stands_or_unreadable (given : Option String) :
    (∃ v, Stands given v) ∨
      ∃ arg, given = some arg ∧ Text.LooksLikeCount arg ∧ Numeral.Unreadable arg := by
  cases given with
  | none => exact .inl ⟨_, .absent⟩
  | some arg =>
    by_cases hlooks : Text.LooksLikeCount arg
    · by_cases hunreadable : Numeral.Unreadable arg
      · exact .inr ⟨arg, rfl, hlooks, hunreadable⟩
      · exact .inl ⟨_, .count hlooks hunreadable⟩
    · exact .inl ⟨_, .text hlooks⟩

theorem optionalValue_error {e : Error} (h : optionalValue given = .error e) :
    e = .numeralNotReadable := by
  rcases stands_or_unreadable given with ⟨v, hv⟩ | ⟨arg, rfl, hlooks, hunreadable⟩
  · obtain ⟨bound, hbound, -⟩ := hv.optionalValue
    rw [hbound] at h
    cases h
  · rw [optionalValue_unreadable hlooks hunreadable] at h
    cases h
    rfl

theorem Stands.showable (h : Stands given v) (hv : v.Bounded) : v.Showable := by
  cases h with
  | count => exact InstantFormat.showable_of_bounded hv
  | absent | text => exact Value.showable_of_shallow (by simp [Value.depth]) fun n hn => by cases hn

theorem Stands.null_iff (h : Stands given v) : v = .null ↔ given = none := by
  cases h <;> simp

end

-- ---------------------------------------------------------------------------
-- The mapper and the record
-- ---------------------------------------------------------------------------

open BitemporalMapper (Refuses)

variable {ends : Ends (Option String)} {field now : Option String} {values : Ends Value} {v : Value}
  {m : BitemporalMapper} {e : Error}

/-- The mapper that the options describe, with the value that stands for its open end. -/
def mapperOf (field : Option String) (v : Value) : Except Error BitemporalMapper :=
  BitemporalMapper.make (some (field.getD defaultField)) (Ends.ofFn fun axis => some axis.column)
    none v

/-- The record of the values of the four ends. -/
def recordOfValues (values : Ends Value) : Record :=
  OrderedMap.ofList (Axis.all.map fun axis => (axis.column, values.get axis))

theorem ofPattern_default :
    InstantFormat.ofPattern (some InstantFormat.defaultPattern) = InstantFormat.ofPattern none := by
  decide

theorem not_repeats_default : ¬ (InstantFormat.ofPattern none).Repeats := by
  rintro ⟨-, items, hitems, hrepeats⟩
  have hdefault := hitems.symm.trans InstantFormat.items?_defaultPattern
  cases hdefault
  exact hrepeats (by decide)

theorem decides_default (h : v.Bounded) : (InstantFormat.ofPattern none).Decides v :=
  ⟨h, fun _ _ => not_repeats_default⟩

theorem mapperOf_eq (h : Text.allBlank (field.getD defaultField) = false) :
    mapperOf field v = (BitemporalMapper.resolveNow (InstantFormat.ofPattern none) v).map
      fun n => ⟨field.getD defaultField, Ends.ofFn Axis.column, InstantFormat.ofPattern none,
        n.millis, n.le_now⟩ := by
  have hfield := BitemporalMapper.requireField_ok.mpr ⟨rfl, h⟩
  refine BitemporalMapper.make_eq (fun axis => ?_) hfield none v
  rw [Ends.get_ofFn, Ends.get_ofFn, BitemporalMapper.requireColumn_column]

theorem mapperOf_blank (h : Text.allBlank (field.getD defaultField) = true) :
    ∃ cause, mapperOf field v = .error (.configuration cause) := by
  refine BitemporalMapper.make_of_not_named (fun hnamed => ?_) none v
  obtain ⟨name, hname, hblank⟩ := hnamed.field
  cases hname
  rw [h] at hblank
  cases hblank

theorem mapperOf_unbounded (h : Text.allBlank (field.getD defaultField) = false)
    (hv : ¬ v.Bounded) : mapperOf field v = .error .overflow := by
  rw [mapperOf_eq h, BitemporalMapper.resolveNow, InstantFormat.read_unbounded _ hv]
  rfl

theorem mapperOf_error (standNow : Stands now v) (hv : v.Bounded)
    (h : mapperOf field v = .error e) : ∃ cause, e = .configuration cause := by
  have hkind := BitemporalMapper.configuration_errors_iff.mpr
    (fun _ => ⟨decides_default hv, standNow.showable hv⟩) e h
  cases e with
  | configuration cause => exact ⟨cause, rfl⟩
  | _ => cases hkind

theorem mapperOf_ok (h : mapperOf field v = .ok m) :
    m.field = field.getD defaultField ∧ m.columns = Ends.ofFn Axis.column ∧
      m.format = InstantFormat.ofPattern none := by
  cases hblank : Text.allBlank (field.getD defaultField) with
  | true =>
    obtain ⟨cause, hcause⟩ := mapperOf_blank hblank
    rw [hcause] at h
    cases h
  | false =>
    rw [mapperOf_eq hblank] at h
    obtain ⟨n, -, rfl⟩ := map_ok.mp h
    exact ⟨rfl, rfl, rfl⟩

theorem valueAt_recordOfValues (h : mapperOf field v = .ok m) (values : Ends Value) (axis : Axis) :
    m.valueAt (recordOfValues values) axis = values.get axis := by
  have hcolumns : (Ends.ofFn Axis.column).toList.Nodup := by decide
  have hcolumn := BitemporalMapper.column_ofColumns hcolumns values axis
  simp only [Ends.get_ofFn] at hcolumn
  rw [BitemporalMapper.valueAt, (mapperOf_ok h).2.1, Ends.get_ofFn]
  exact hcolumn

theorem renders_mapperOf (h : mapperOf field v = .ok m) : m.format.Renders := by
  rw [(mapperOf_ok h).2.2]
  exact InstantFormat.renders_of_characters (by decide)

theorem buildMapper_eq (h : Stands now v) :
    buildMapper Settings.standard (field.getD defaultField) none now =
      (mapperOf field v).map .bitemporal := by
  obtain ⟨bound, hbound, rfl⟩ := h.optionalValue
  have hpattern : (MapperOptions.nonempty none).or
      ((some Settings.standard).map Settings.datePattern) = some InstantFormat.defaultPattern := rfl
  have hnow : bound.or ((some Settings.standard).bind Settings.nowValue) = bound := Option.or_none
  simp only [buildMapper, hbound, bind, Except.bind, MapperOptions.build, hpattern, hnow, mapperOf,
    BitemporalMapper.make, ofPattern_default]

-- ---------------------------------------------------------------------------
-- Answers
-- ---------------------------------------------------------------------------

/-- The remark that nothing is stored. -/
def nothingLine : Printed := .line "[yellow]No bitemporal data; nothing stored[/yellow]"

/-- The three ways in which the command is meant to end, the last for two reasons: its exit code and
what it has to print. -/
inductive Answers (ends : Ends (Option String)) (field now : Option String) : Nat → Printed → Prop
  | stored {values : Ends Value} {v : Value} {m : BitemporalMapper} {stored : StoredInterval}
      (given : ∀ axis, Stands (ends.get axis) (values.get axis)) (standNow : Stands now v)
      (mapper : mapperOf field v = .ok m)
      (stores : m.store (recordOfValues values) = .ok (some stored)) :
    Answers ends field now 0 (storedTable stored)
  | nothing {v : Value} {m : BitemporalMapper} (absent : ∀ axis, ends.get axis = none)
      (standNow : Stands now v) (mapper : mapperOf field v = .ok m) :
    Answers ends field now 0 nothingLine
  | misdescribed {values : Ends Value} {v : Value} {cause : ConfigurationError}
      (given : ∀ axis, Stands (ends.get axis) (values.get axis)) (standNow : Stands now v)
      (fails : mapperOf field v = .error (.configuration cause)) :
    Answers ends field now 1 (.failure (.configuration cause))
  | refused {values : Ends Value} {v : Value} {m : BitemporalMapper} {cause : InputError}
      (given : ∀ axis, Stands (ends.get axis) (values.get axis)) (standNow : Stands now v)
      (mapper : mapperOf field v = .ok m)
      (fails : m.store (recordOfValues values) = .error (.input cause)) :
    Answers ends field now 1 (.failure (.input cause))

/-- The errors that leave the command without an answer: of an argument that is taken for a count
and cannot be read as one, of an open end without a double, and of the first end that is refused, if
it has no double. -/
inductive Breaks (ends : Ends (Option String)) (field now : Option String) : Error → Prop
  | numeral {arg : String} (given : now = some arg ∨ ∃ axis, ends.get axis = some arg)
      (looks : Text.LooksLikeCount arg) (unreadable : Numeral.Unreadable arg) :
    Breaks ends field now .numeralNotReadable
  | openEnd {values : Ends Value} {v : Value}
      (given : ∀ axis, Stands (ends.get axis) (values.get axis)) (standNow : Stands now v)
      (named : Text.allBlank (field.getD defaultField) = false) (beyond : ¬ v.Bounded) :
    Breaks ends field now .overflow
  | instant {values : Ends Value} {v : Value} {m : BitemporalMapper}
      (given : ∀ axis, Stands (ends.get axis) (values.get axis)) (standNow : Stands now v)
      (mapper : mapperOf field v = .ok m) (axis : Axis)
      (before : ∀ a ∈ axis.earlier, ∀ e, ¬ m.Refuses (values.get a) e)
      (beyond : ¬ (values.get axis).Bounded) :
    Breaks ends field now .overflow

variable {code : Nat} {printed : Printed}

theorem assign_unreadable {arg : String}
    (given : now = some arg ∨ ∃ axis, ends.get axis = some arg)
    (looks : Text.LooksLikeCount arg) (unreadable : Numeral.Unreadable arg) :
    assign Settings.standard ends field none now = .unreported .numeralNotReadable := by
  have hunreadable := optionalValue_unreadable looks unreadable
  cases hbounds : Ends.forAll? fun axis => optionalValue (ends.get axis) with
  | error e =>
    -- Another end may be the first that cannot be read; its error is the same.
    obtain ⟨axis, haxis⟩ := Ends.exists_forAll?_error hbounds
    simp only [assign, hbounds, optionalValue_error haxis]
  | ok bounds =>
    rcases given with rfl | ⟨axis, haxis⟩
    · simp [assign, hbounds, buildMapper, hunreadable, bind, Except.bind, isLibraryError]
    · have hok := Ends.forAll?_ok.mp hbounds axis
      rw [haxis, hunreadable] at hok
      cases hok

/-- With all arguments read, the mapper is made and stores the record. -/
theorem assign_eq (given : ∀ axis, Stands (ends.get axis) (values.get axis))
    (standNow : Stands now v) : assign Settings.standard ends field none now =
      match (mapperOf field v).bind fun m => m.store (recordOfValues values) with
      | .ok none => .done nothingLine
      | .ok (some stored) => .done (storedTable stored)
      | .error e => if isLibraryError e then .reported e else .unreported e := by
  choose bound hbound hvalue using fun axis => (given axis).optionalValue
  have hbounds : (Ends.forAll? fun axis => optionalValue (ends.get axis)) = .ok (Ends.ofFn bound) :=
    Ends.forAll?_ok.mpr fun axis => by rw [Ends.get_ofFn, hbound axis]
  have hrecord : (OrderedMap.ofList (Axis.all.map fun axis =>
      (axis.column, (((Ends.ofFn bound).get axis).map Bound.value).getD .null)) : Record) =
        recordOfValues values := by
    simp only [Ends.get_ofFn, hvalue]
    rfl
  simp only [assign, hbounds, hrecord, buildMapper_eq standNow]
  cases mapperOf field v <;> rfl

theorem Answers.answer_assign (h : Answers ends field now code printed) :
    (assign Settings.standard ends field none now).answer = .ok (code, printed) := by
  cases h with
  | stored given standNow mapper stores =>
    rw [assign_eq given standNow, mapper, Except.bind, stores]
    rfl
  | @nothing v m absent standNow mapper =>
    have given (axis : Axis) :
        Stands (ends.get axis) ((Ends.ofFn fun _ => Value.null).get axis) := by
      rw [absent axis, Ends.get_ofFn]
      exact .absent
    have hstore : m.store (recordOfValues (Ends.ofFn fun _ => .null)) = .ok none :=
      (BitemporalMapper.Outcome.nothing fun axis => by
        rw [valueAt_recordOfValues mapper, Ends.get_ofFn]).store_eq
    rw [assign_eq given standNow, mapper, Except.bind, hstore]
    rfl
  | misdescribed given standNow fails =>
    rw [assign_eq given standNow, fails]
    rfl
  | refused given standNow mapper fails =>
    rw [assign_eq given standNow, mapper, Except.bind, fails]
    rfl

theorem Breaks.answer_assign (h : Breaks ends field now e) :
    (assign Settings.standard ends field none now).answer = .error e := by
  cases h with
  | numeral given looks unreadable => rw [assign_unreadable given looks unreadable]; rfl
  | openEnd given standNow named beyond =>
    rw [assign_eq given standNow, mapperOf_unbounded named beyond]
    rfl
  | @instant values v m given standNow mapper axis before beyond =>
    have hstore : m.store (recordOfValues values) = .error .overflow := by
      refine (BitemporalMapper.Outcome.refused axis (fun a ha e => ?_) (.unreadable ?_)).store_eq
      · rw [valueAt_recordOfValues mapper]
        exact before a ha e
      · rw [valueAt_recordOfValues mapper]
        exact InstantFormat.read_unbounded m.format beyond
    rw [assign_eq given standNow, mapper, Except.bind, hstore]
    rfl

/-- A mapper that is made stores the record, or has nothing to store, or rejects it for a reason
that is reported, or its first refused end has no double. -/
theorem answers_or_breaks_of_mapper (given : ∀ axis, Stands (ends.get axis) (values.get axis))
    (standNow : Stands now v) (mapper : mapperOf field v = .ok m) :
    (∃ code printed, Answers ends field now code printed) ∨ ∃ e, Breaks ends field now e := by
  have hvalue := valueAt_recordOfValues mapper values
  obtain ⟨result, hresult⟩ :=
    BitemporalMapper.exists_outcome (renders_mapperOf mapper) (recordOfValues values)
  have hstore := hresult.store_eq
  cases hresult with
  | refused axis before refuses =>
    cases refuses with
    | unreadable hread =>
      rw [hvalue] at hread
      rcases InstantFormat.read_error hread with ⟨-, beyond⟩ | ⟨-, hrepeats, -⟩ | ⟨hkind, -⟩
      · refine .inr ⟨_, .instant given standNow mapper axis (fun a ha e => ?_) beyond⟩
        rw [← hvalue]
        exact before a ha e
      · rw [(mapperOf_ok mapper).2.2] at hrepeats
        exact absurd hrepeats not_repeats_default
      · rename_i e
        cases e with
        | input cause => exact .inl ⟨_, _, .refused given standNow mapper hstore⟩
        | _ => cases hkind
    | late => exact .inl ⟨_, _, .refused given standNow mapper hstore⟩
    | negative => exact .inl ⟨_, _, .refused given standNow mapper hstore⟩
  | nothing absent =>
    refine .inl ⟨_, _, .nothing (fun axis => ?_) standNow mapper⟩
    rw [← (given axis).null_iff, ← hvalue]
    exact absent axis
  | missing => exact .inl ⟨_, _, .refused given standNow mapper hstore⟩
  | validInverted => exact .inl ⟨_, _, .refused given standNow mapper hstore⟩
  | transactionInverted => exact .inl ⟨_, _, .refused given standNow mapper hstore⟩
  | stored => exact .inl ⟨_, _, .stored given standNow mapper hstore⟩

theorem answers_or_breaks (ends : Ends (Option String)) (field now : Option String) :
    (∃ code printed, Answers ends field now code printed) ∨ ∃ e, Breaks ends field now e := by
  by_cases hunreadable : ∃ arg, (now = some arg ∨ ∃ axis, ends.get axis = some arg) ∧
      Text.LooksLikeCount arg ∧ Numeral.Unreadable arg
  · obtain ⟨arg, given, looks, unreadable⟩ := hunreadable
    exact .inr ⟨_, .numeral given looks unreadable⟩
  -- Everything that is given can be read, so that only the mapper and the record are left.
  have hstands : ∀ axis, ∃ v, Stands (ends.get axis) v := fun axis =>
    (stands_or_unreadable (ends.get axis)).resolve_right fun ⟨arg, hgiven, hbad⟩ =>
      hunreadable ⟨arg, .inr ⟨axis, hgiven⟩, hbad⟩
  choose value hvalue using hstands
  have given (axis : Axis) : Stands (ends.get axis) ((Ends.ofFn value).get axis) := by
    rw [Ends.get_ofFn]
    exact hvalue axis
  obtain ⟨v, standNow⟩ := (stands_or_unreadable now).resolve_right fun ⟨arg, hgiven, hbad⟩ =>
    hunreadable ⟨arg, .inl hgiven, hbad⟩
  cases hmapper : mapperOf field v with
  | ok m => exact answers_or_breaks_of_mapper given standNow hmapper
  | error e =>
    cases hblank : Text.allBlank (field.getD defaultField) with
    | true =>
      obtain ⟨cause, hcause⟩ := mapperOf_blank (v := v) hblank
      exact .inl ⟨_, _, .misdescribed given standNow hcause⟩
    | false =>
      by_cases hv : v.Bounded
      · obtain ⟨cause, rfl⟩ := mapperOf_error standNow hv hmapper
        exact .inl ⟨_, _, .misdescribed given standNow hmapper⟩
      · exact .inr ⟨_, .openEnd given standNow hblank hv⟩

theorem Answers.absent (h : Answers ends field now code nothingLine) :
    (∀ axis, ends.get axis = none) ∧ ∃ v m, Stands now v ∧ mapperOf field v = .ok m := by
  generalize hnothing : nothingLine = printed at h
  cases h with
  | nothing absent standNow mapper => exact ⟨absent, _, _, standNow, mapper⟩
  | stored => cases hnothing
  | misdescribed => cases hnothing
  | refused => cases hnothing

-- ---------------------------------------------------------------------------
-- Answers that close a mark
-- ---------------------------------------------------------------------------

/-- The command has to print a text that closes a mark which is not open, which comes from the first
end that is refused or from the name of the field. -/
inductive Misprints (ends : Ends (Option String)) (field now : Option String) : Prop
  | refused {values : Ends Value} {v : Value} {m : BitemporalMapper}
      (given : ∀ axis, Stands (ends.get axis) (values.get axis)) (standNow : Stands now v)
      (mapper : mapperOf field v = .ok m) (axis : Axis)
      (before : ∀ a ∈ axis.earlier, ∀ e, ¬ m.Refuses (values.get a) e) {text : String}
      (here : ends.get axis = some text) (closes : ClosesUnopened text)
  | stored {values : Ends Value} {v : Value} {m : BitemporalMapper} {stored : StoredInterval}
      (given : ∀ axis, Stands (ends.get axis) (values.get axis)) (standNow : Stands now v)
      (mapper : mapperOf field v = .ok m)
      (stores : m.store (recordOfValues values) = .ok (some stored))
      (closes : ClosesUnopened (field.getD defaultField))

/-- A text with a bracket is neither a count nor a moment of the default pattern. -/
theorem Stands.of_bracket {text : String} (h : Stands (some text) v)
    (hbracket : '[' ∈ text.toList) :
    v = .text text ∧ (InstantFormat.ofPattern none).read v =
      .error (.input (.patternMismatch text InstantFormat.defaultPattern)) := by
  cases h with
  | count looks =>
    have hdigit := looks.2 '[' (Text.mem_trim (by decide) hbracket)
    exact absurd hdigit (by decide)
  | text other =>
    exact ⟨rfl, InstantFormat.read_of_avoids (c := '[') (by decide) hbracket⟩

theorem closes_patternMismatch {text : String} (h : ClosesUnopened text) (pattern : String) :
    ClosesUnopened (InputError.patternMismatch text pattern).message := by
  have hquote : Settled "'".toList := settled_of_plain (by simp [IsPlain])
  exact (((h.prepend hquote).append _).append _).append _

/-- The name of the mark of current records is a cell of the table of what is stored. -/
theorem flagName_mem_marked {record : Record} {stored : StoredInterval}
    (hrenders : m.format.Renders) (stores : m.store record = .ok (some stored)) :
    Partition.flagName m.field ∈ (storedTable stored).marked := by
  obtain ⟨result, hresult⟩ := BitemporalMapper.exists_outcome hrenders record
  have hstore := hresult.store_eq
  rw [stores] at hstore
  obtain rfl := hstore
  cases hresult with
  | @stored _ ends denotes validForward transactionForward collapsed =>
    have hentry := OrderedMap.mem_entries_iff.mpr (BitemporalMapper.storedAs_stored m ends).flag
    exact List.mem_cons_of_mem _ <| List.mem_flatMap.mpr
      ⟨_, List.mem_cons_of_mem _ (List.mem_map_of_mem hentry), List.mem_cons_self⟩

theorem Misprints.answers (h : Misprints ends field now) :
    ∃ code printed, Answers ends field now code printed ∧
      ∃ text ∈ printed.marked, ClosesUnopened text := by
  cases h with
  | @refused values v m given standNow mapper axis before text here closes =>
    obtain ⟨-, hread⟩ := Stands.of_bracket (here ▸ given axis) closes.mem_bracket
    have hstore : m.store (recordOfValues values) =
        .error (.input (.patternMismatch text InstantFormat.defaultPattern)) := by
      refine (BitemporalMapper.Outcome.refused axis (fun a ha e => ?_) (.unreadable ?_)).store_eq
      · rw [valueAt_recordOfValues mapper]
        exact before a ha e
      · rw [valueAt_recordOfValues mapper, (mapperOf_ok mapper).2.2]
        exact hread
    exact ⟨_, _, .refused given standNow mapper hstore, _, List.mem_singleton_self _,
      (closes_patternMismatch closes _).failureLine⟩
  | @stored values v m stored given standNow mapper stores closes =>
    refine ⟨_, _, .stored given standNow mapper stores, Partition.flagName m.field,
      flagName_mem_marked (renders_mapperOf mapper) stores, ?_⟩
    rw [(mapperOf_ok mapper).1]
    exact closes.append ".T1UT2"

-- ---------------------------------------------------------------------------
-- One run
-- ---------------------------------------------------------------------------

/-- A run that prints an answer. -/
def prints (code : Nat) (printed : Printed) : Outcome :=
  ⟨code, [printed], Settings.standard.logLevel, none⟩

/-- A run that an error escapes from. -/
def escapesWith (e : Error) : Outcome := ⟨1, [], Settings.standard.logLevel, some e⟩

/-- The outcomes that are meant: an answer that the console prints. -/
inductive Clean (console : Console) (ends : Ends (Option String)) (field now : Option String) :
    Outcome → Prop
  | printed {code : Nat} {printed : Printed} (answers : Answers ends field now code printed)
      (accepted : console.refusal? printed = none) :
    Clean console ends field now (prints code printed)

/-- The errors that escape: those that leave the command without an answer, and the one with which
the console refuses to print the answer. -/
inductive Escapes (console : Console) (ends : Ends (Option String)) (field now : Option String) :
    Error → Prop
  | unanswered {e : Error} (breaks : Breaks ends field now e) : Escapes console ends field now e
  | unprinted {code : Nat} {printed : Printed} {e : Error}
      (answers : Answers ends field now code printed)
      (refusal : console.refusal? printed = some e) :
    Escapes console ends field now e

variable {console : Console} {outcome : Outcome}

theorem Clean.nothing (h : Clean console ends field now (prints 0 nothingLine)) :
    (∀ axis, ends.get axis = none) ∧ (∃ v m, Stands now v ∧ mapperOf field v = .ok m) ∧
      console.refusal? nothingLine = none := by
  generalize hnothing : prints 0 nothingLine = outcome at h
  cases h with
  | printed answers accepted =>
    cases hnothing
    obtain ⟨habsent, hmapper⟩ := answers.absent
    exact ⟨habsent, hmapper, accepted⟩

theorem not_clean_escapesWith : ¬ Clean console ends field now (escapesWith e) := by
  intro h
  generalize hescapes : escapesWith e = outcome at h
  cases h
  cases hescapes

section

variable {s : Surroundings} {args : List String}
  (hsettings : (Settings.load s none).result = .ok Settings.standard)
  (hargs : Invocation.ofArguments args = .command (.assign ends field none now))

include hsettings hargs

theorem run_eq : run console s args =
    match (assign Settings.standard ends field none now).answer with
    | .ok (code, printed) => print console Settings.standard.logLevel code printed
    | .error e => escapesWith e := by
  simp only [run, hsettings, hargs, perform]
  rfl

theorem Clean.run_eq (h : Clean console ends field now outcome) : run console s args = outcome := by
  cases h with
  | printed answers accepted =>
    rw [CommandLine.run_eq hsettings hargs, answers.answer_assign]
    simp only [print, accepted]
    rfl

theorem Escapes.run_eq (h : Escapes console ends field now e) :
    run console s args = escapesWith e := by
  rw [CommandLine.run_eq hsettings hargs]
  cases h with
  | unanswered breaks => rw [breaks.answer_assign]
  | unprinted answers refusal =>
    rw [answers.answer_assign]
    simp only [print, refusal]
    rfl

end

theorem clean_or_escapes (console : Console) (ends : Ends (Option String))
    (field now : Option String) :
    (∃ outcome, Clean console ends field now outcome) ∨ ∃ e, Escapes console ends field now e := by
  rcases answers_or_breaks ends field now with ⟨code, printed, answers⟩ | ⟨e, breaks⟩
  · cases hrefusal : console.refusal? printed with
    | none => exact .inl ⟨_, .printed answers hrefusal⟩
    | some e => exact .inr ⟨e, .unprinted answers hrefusal⟩
  · exact .inr ⟨e, .unanswered breaks⟩

/-- Where there are no settings but the standard ones, the command ends cleanly unless an error
escapes, and remarks that nothing is stored exactly if no end is given, the options describe a
mapper and the console prints the remark. On a console that reads marks, the error about a mark that
is not open escapes if the first refused end or the field closes such a mark. -/
theorem run_assign {s : Surroundings} {args : List String} (console : Console)
    (hsettings : (Settings.load s none).result = .ok Settings.standard)
    (hargs : Invocation.ofArguments args = .command (.assign ends field none now)) :
    (Clean console ends field now (run console s args) ↔
      ¬ ∃ e, Escapes console ends field now e) ∧
    (run console s args = prints 0 nothingLine ↔
      (∀ axis, ends.get axis = none) ∧ (∃ v m, Stands now v ∧ mapperOf field v = .ok m) ∧
        console.refusal? nothingLine = none) ∧
    (∀ e, run console s args = escapesWith e ↔ Escapes console ends field now e) ∧
    (console.ReadsMarks → Misprints ends field now →
      run console s args = escapesWith .markNotOpen) := by
  have hcases : Clean console ends field now (run console s args) ∨
      ∃ e, Escapes console ends field now e ∧ run console s args = escapesWith e := by
    rcases clean_or_escapes console ends field now with ⟨outcome, h⟩ | ⟨e, h⟩
    · rw [h.run_eq hsettings hargs]
      exact .inl h
    · exact .inr ⟨e, h, h.run_eq hsettings hargs⟩
  refine ⟨⟨?_, ?_⟩, ⟨?_, ?_⟩, fun e => ⟨?_, ?_⟩, fun hreads hmisprints => ?_⟩
  · rintro h ⟨e, he⟩
    rw [he.run_eq hsettings hargs] at h
    exact not_clean_escapesWith h
  · intro h
    exact hcases.resolve_right fun ⟨e, he, _⟩ => h ⟨e, he⟩
  · intro h
    rcases hcases with hclean | ⟨e, -, he⟩
    · rw [h] at hclean
      exact hclean.nothing
    · rw [h] at he
      cases he
  · rintro ⟨absent, ⟨v, m, standNow, mapper⟩, accepted⟩
    exact (Clean.printed (.nothing absent standNow mapper) accepted).run_eq hsettings hargs
  · intro h
    rcases hcases with hclean | ⟨e', he', hrun⟩
    · rw [h] at hclean
      exact absurd hclean not_clean_escapesWith
    · rw [h] at hrun
      cases hrun
      exact he'
  · intro h
    exact h.run_eq hsettings hargs
  · obtain ⟨code, printed, answers, hmark⟩ := hmisprints.answers
    exact (Escapes.unprinted answers (hreads printed hmark)).run_eq hsettings hargs

-- ---------------------------------------------------------------------------
-- Surroundings without settings
-- ---------------------------------------------------------------------------

def bareHome : Surroundings where
  environment := OrderedMap.ofList [("HOME", "/home/user")]
  directory := "/"
  files := []

theorem load_bareHome : (Settings.load bareHome none).result = .ok Settings.standard := by
  have hload : (Settings.load bareHome none).result.toOption = some Settings.standard := by
    decide +kernel
  cases hresult : (Settings.load bareHome none).result with
  | ok settings =>
    rw [hresult] at hload
    cases hload
    rfl
  | error e =>
    rw [hresult] at hload
    cases hload

def noEnds : Ends (Option String) := ⟨none, none, none, none⟩

def raisedTwo : Ends (Option String) := ⟨some "²", none, none, none⟩

def closingMark : Ends (Option String) := ⟨some "[/x]", none, none, none⟩

theorem breaks_raisedTwo : Breaks raisedTwo none none .numeralNotReadable := by
  have htrimmed : Text.trimmed "²" = ['²'] := rfl
  have hlooks : Text.LooksLikeCount "²" := by
    rw [Text.LooksLikeCount, htrimmed, List.forall_mem_singleton]
    exact ⟨List.cons_ne_nil '²' [], by decide⟩
  have hunreadable : Numeral.Unreadable "²" :=
    .inl ⟨'²', List.mem_singleton_self '²', by decide, by decide⟩
  exact .numeral (.inr ⟨.validFrom, rfl⟩) hlooks hunreadable

theorem exists_mapperOf_none : ∃ m, mapperOf none .null = .ok m := by
  rw [mapperOf_eq (by decide)]
  exact ⟨_, rfl⟩

theorem misprints_closingMark : Misprints closingMark none none := by
  have hcloses : ClosesUnopened "[/x]" :=
    ⟨[], ['x'], [], .nil, List.all_eq_true.mp (by decide), rfl⟩
  have htext : ¬ Text.LooksLikeCount "[/x]" := fun looks =>
    absurd (looks.2 '[' (Text.mem_trim (by decide) hcloses.mem_bracket)) (by decide)
  obtain ⟨m, mapper⟩ := exists_mapperOf_none
  let values : Ends Value := ⟨.text "[/x]", .null, .null, .null⟩
  have given (axis : Axis) : Stands (closingMark.get axis) (values.get axis) := by
    cases axis with
    | validFrom => exact .text htext
    | _ => exact .absent
  exact .refused given .absent mapper .validFrom (List.forall_mem_nil _) rfl hcloses

/-- Without any end, with a raised two, and with a mark that closes, on a console that reads
marks. -/
theorem run_assign_noEnds :
    Clean .counting noEnds none none (run .counting bareHome ["assign"]) ∧
      run .counting bareHome ["assign"] = prints 0 nothingLine ∧
      run .counting bareHome ["assign", "--vt-from", "²"] = escapesWith .numeralNotReadable ∧
      Console.counting.ReadsMarks ∧
      run .counting bareHome ["assign", "--vt-from", "[/x]"] = escapesWith .markNotOpen := by
  obtain ⟨hclean, hnothing, hescapes, -⟩ :=
    run_assign .counting load_bareHome (ofArguments_assignLine noEnds none none)
  obtain ⟨-, -, hraised, -⟩ :=
    run_assign .counting load_bareHome (ofArguments_assignLine raisedTwo none none)
  obtain ⟨-, -, -, hmark⟩ :=
    run_assign .counting load_bareHome (ofArguments_assignLine closingMark none none)
  obtain ⟨m, hm⟩ := exists_mapperOf_none
  have haccepted : Console.counting.refusal? nothingLine = none := by decide
  have hrun := hnothing.mpr ⟨fun axis => by cases axis <;> rfl, ⟨.null, m, .absent, hm⟩, haccepted⟩
  have hnone : ¬ ∃ e, Escapes .counting noEnds none none e := by
    rintro ⟨e, he⟩
    have hescaped := (hescapes e).mpr he
    rw [hrun] at hescaped
    cases hescaped
  exact ⟨hclean.mpr hnone, hrun, (hraised _).mpr (.unanswered breaks_raisedTwo),
    Console.readsMarks_counting, hmark Console.readsMarks_counting misprints_closingMark⟩

/-- A raised two is taken for a count, and the error of reading it as one escapes, even from a
console that prints everything. A mark that closes escapes from a console that reads marks. -/
theorem assign_escapes :
    (Settings.load bareHome none).result = .ok Settings.standard ∧
      Invocation.ofArguments ["assign", "--vt-from", "²"] =
        .command (.assign raisedTwo none none none) ∧
      ¬ Clean .plain raisedTwo none none (run .plain bareHome ["assign", "--vt-from", "²"]) ∧
      Invocation.ofArguments ["assign", "--vt-from", "[/x]"] =
        .command (.assign closingMark none none none) ∧
      ¬ Clean .counting closingMark none none
        (run .counting bareHome ["assign", "--vt-from", "[/x]"]) := by
  have hraised : Invocation.ofArguments ["assign", "--vt-from", "²"] =
      .command (.assign raisedTwo none none none) := ofArguments_assignLine raisedTwo none none
  have hmark : Invocation.ofArguments ["assign", "--vt-from", "[/x]"] =
      .command (.assign closingMark none none none) := ofArguments_assignLine closingMark none none
  refine ⟨load_bareHome, hraised, ?_, hmark, ?_⟩
  · rw [(Escapes.unanswered breaks_raisedTwo).run_eq load_bareHome hraised]
    exact not_clean_escapesWith
  · obtain ⟨code, printed, answers, hcloses⟩ := misprints_closingMark.answers
    have hrefusal := Console.readsMarks_counting printed hcloses
    rw [(Escapes.unprinted answers hrefusal).run_eq load_bareHome hmark]
    exact not_clean_escapesWith

end Bitemporal.CommandLine
