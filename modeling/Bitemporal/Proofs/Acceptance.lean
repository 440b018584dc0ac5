import Bitemporal.Proofs.StandardMapper

/-!
# Which records a mapper accepts, and which error wins

Each of four columns can be absent, unreadable, out of range or fine, and both axes can run
backwards at the same time. `Outcome` says what becomes of a record: columns that are refused come
first, then missing ends, then the order of valid time, then that of transaction time, and each of
them in the order of the ends. The order of an axis is that of the counts as they were read; the
mapper's open end plays no part in it.
-/

namespace Bitemporal

-- ---------------------------------------------------------------------------
-- The first end with a property
-- ---------------------------------------------------------------------------

namespace Axis

/-- The ends that are looked at before an end. -/
def earlier (axis : Axis) : List Axis := all.takeWhile (· ≠ axis)

theorem exists_first {P : Axis → Prop} (h : ∃ axis, P axis) :
    ∃ axis, P axis ∧ ∀ a ∈ axis.earlier, ¬ P a := by
  by_cases hvf : P .validFrom
  · exact ⟨.validFrom, hvf, by simp [earlier, all]⟩
  by_cases hvt : P .validTo
  · exact ⟨.validTo, hvt, by simp [earlier, all, hvf]⟩
  by_cases htf : P .transactionFrom
  · exact ⟨.transactionFrom, htf, by simp [earlier, all, hvf, hvt]⟩
  obtain ⟨axis, haxis⟩ := h
  cases axis with
  | validFrom => exact absurd haxis hvf
  | validTo => exact absurd haxis hvt
  | transactionFrom => exact absurd haxis htf
  | transactionTo => exact ⟨.transactionTo, haxis, by simp [earlier, all, hvf, hvt, htf]⟩

end Axis

theorem Ends.forAll?_error {ε α : Type} {f : Axis → Except ε α} {e : ε} (axis : Axis)
    (hbefore : ∀ a ∈ axis.earlier, ∃ v, f a = .ok v) (h : f axis = .error e) :
    forAll? f = .error e := by
  unfold forAll?
  cases axis with
  | validFrom => simp [h, bind, Except.bind]
  | validTo =>
    obtain ⟨_, hvf⟩ := hbefore .validFrom (by decide)
    simp [hvf, h, bind, Except.bind]
  | transactionFrom =>
    obtain ⟨_, hvf⟩ := hbefore .validFrom (by decide)
    obtain ⟨_, hvt⟩ := hbefore .validTo (by decide)
    simp [hvf, hvt, h, bind, Except.bind]
  | transactionTo =>
    obtain ⟨_, hvf⟩ := hbefore .validFrom (by decide)
    obtain ⟨_, hvt⟩ := hbefore .validTo (by decide)
    obtain ⟨_, htf⟩ := hbefore .transactionFrom (by decide)
    simp [hvf, hvt, htf, h, bind, Except.bind]

namespace InstantFormat

variable {f : InstantFormat} {v : Value}

theorem read_none_iff : f.read v = .ok none ↔ v = .null := by
  cases v with
  | null => exact iff_of_true rfl rfl
  | int n =>
    simp only [read, reduceCtorEq, iff_false]
    split <;> simp
  | float x =>
    simp only [read, reduceCtorEq, iff_false]
    split <;> simp
  | text s =>
    simp only [read, reduceCtorEq, iff_false]
    intro h
    obtain ⟨n, -, hn⟩ := map_ok.mp h
    cases hn
  | _ => simp [read]

def Renders (f : InstantFormat) : Prop := ∀ millis, ∃ text, f.write millis = .ok text

theorem renders_of_characters (h : Text.hasHalf f.pattern = false) : f.Renders := by
  intro millis
  unfold write
  split
  · exact ⟨_, rfl⟩
  · split
    · exact ⟨_, by rw [h]; rfl⟩
    · exact ⟨_, rfl⟩

end InstantFormat

namespace BitemporalMapper

variable {m : BitemporalMapper} {record : Record} {raw : Ends Nat} {v : Value} {e : Error}

-- ---------------------------------------------------------------------------
-- One column
-- ---------------------------------------------------------------------------

/-- A value that cannot be read, or is read as a count out of range, with the error that tells. -/
inductive Refuses (m : BitemporalMapper) (v : Value) : Error → Prop
  | unreadable {e : Error} (h : m.format.read v = .error e) : Refuses m v e
  | late {n : Int} (h : m.format.read v = .ok (some n)) (hn : m.now < n) :
    Refuses m v (.input (.exceedsNow m.field n m.now))
  | negative {n : Int} (h : m.format.read v = .ok (some n)) (hn : n < 0) :
    Refuses m v (.input (.negativeInstant n))

theorem readInstant_none_iff : m.readInstant v = .ok none ↔ v = .null := by
  rw [← InstantFormat.read_none_iff (f := m.format)]
  unfold readInstant
  split
  · simp [*]
  · simp [*]
  · split <;> simp [*]

theorem refuses_or (m : BitemporalMapper) (v : Value) :
    (∃ e, m.Refuses v e) ∨ v = .null ∨ ∃ n, m.Reads v n := by
  cases h : m.format.read v with
  | error e => exact .inl ⟨e, .unreadable h⟩
  | ok read =>
    cases read with
    | none => exact .inr (.inl (InstantFormat.read_none_iff.mp h))
    | some n =>
      rcases Int.lt_or_le n 0 with hn | hn
      · exact .inl ⟨_, .negative h hn⟩
      rcases Int.lt_or_le m.now n with hlate | hle
      · exact .inl ⟨_, .late h hlate⟩
      · obtain ⟨k, rfl⟩ := Int.eq_ofNat_of_zero_le hn
        exact .inr (.inr ⟨k, h, Int.ofNat_le.mp hle⟩)

theorem Refuses.readInstant (h : m.Refuses v e) : m.readInstant v = .error e := by
  cases h with
  | unreadable h => simp [BitemporalMapper.readInstant, h]
  | late h hn => simp [BitemporalMapper.readInstant, h, instantOfMillis, hn]
  | negative h hn =>
    rename_i n
    have hlate : ¬ (m.now : Int) < n := by omega
    have hnow : n ≠ (m.now : Int) := by omega
    simp [BitemporalMapper.readInstant, h, instantOfMillis, Instant.ofMillis, hn, hlate, hnow]

theorem Reads.not_refuses {n : Nat} (h : m.Reads v n) : ¬ m.Refuses v e := by
  intro he
  obtain ⟨i, hi⟩ := h.readInstant
  rw [he.readInstant] at hi
  cases hi

theorem exists_readInstant (h : ∀ e, ¬ m.Refuses v e) :
    ∃ read, m.readInstant v = .ok read ∧ (read = none ↔ v = .null) := by
  rcases m.refuses_or v with ⟨e, he⟩ | hnull | ⟨n, hn⟩
  · exact absurd he (h e)
  · exact ⟨none, readInstant_none_iff.mpr hnull, iff_of_true rfl hnull⟩
  · obtain ⟨i, hi⟩ := hn.readInstant
    refine ⟨some i, hi, iff_of_false (by simp) ?_⟩
    rintro rfl
    cases hn.1

-- ---------------------------------------------------------------------------
-- Four columns
-- ---------------------------------------------------------------------------

def valueAt (m : BitemporalMapper) (record : Record) (axis : Axis) : Value :=
  record.column (m.columns.get axis)

/-- All four columns of a record denote counts. -/
def Denotes (m : BitemporalMapper) (record : Record) (raw : Ends Nat) : Prop :=
  ∀ axis, m.Reads (m.valueAt record axis) (raw.get axis)

/-- What becomes of a record. -/
inductive Outcome (m : BitemporalMapper) (record : Record) :
    Except Error (Option StoredInterval) → Prop
  | refused {e : Error} (axis : Axis)
      (before : ∀ a ∈ axis.earlier, ∀ e, ¬ m.Refuses (m.valueAt record a) e)
      (refuses : m.Refuses (m.valueAt record axis) e) :
    Outcome m record (.error e)
  | nothing (absent : ∀ axis, m.valueAt record axis = .null) : Outcome m record (.ok none)
  | missing (axis : Axis) (readable : ∀ a e, ¬ m.Refuses (m.valueAt record a) e)
      (before : ∀ a ∈ axis.earlier, m.valueAt record a ≠ .null)
      (absent : m.valueAt record axis = .null) (present : ∃ a, m.valueAt record a ≠ .null) :
    Outcome m record (.error (.input (.missingEnd axis)))
  | validInverted {raw : Ends Nat} {startText stopText : String} (denotes : m.Denotes record raw)
      (inverted : raw.validTo < raw.validFrom)
      (startWritten : m.format.write (m.collapse raw.validFrom) = .ok startText)
      (stopWritten : m.format.write (m.collapse raw.validTo) = .ok stopText) :
    Outcome m record (.error (.input (.inverted .validFrom .validTo (m.collapse raw.validFrom)
      (m.collapse raw.validTo) startText stopText)))
  | transactionInverted {raw : Ends Nat} {startText stopText : String}
      (denotes : m.Denotes record raw) (forward : raw.validFrom ≤ raw.validTo)
      (inverted : raw.transactionTo < raw.transactionFrom)
      (startWritten : m.format.write (m.collapse raw.transactionFrom) = .ok startText)
      (stopWritten : m.format.write (m.collapse raw.transactionTo) = .ok stopText) :
    Outcome m record (.error (.input (.inverted .transactionFrom .transactionTo
      (m.collapse raw.transactionFrom) (m.collapse raw.transactionTo) startText stopText)))
  | stored {raw : Ends Nat} {ends : Ends Instant} (denotes : m.Denotes record raw)
      (validForward : raw.validFrom ≤ raw.validTo)
      (transactionForward : raw.transactionFrom ≤ raw.transactionTo)
      (collapsed : ends.millis = raw.map m.collapse) :
    Outcome m record (.ok (some (m.stored ends)))

theorem Denotes.exists_ends (h : m.Denotes record raw) :
    ∃ ends : Ends Instant, ends.millis = raw.map m.collapse ∧
      m.readEnds record = .ok (ends.map some) := by
  let instantAt (axis : Axis) : Instant := ⟨m.collapse (raw.get axis), collapse_le_now (h axis).2⟩
  have hmillis : (Ends.ofFn instantAt).millis = raw.map m.collapse :=
    Ends.ext_get fun axis => by rw [Ends.millis, Ends.get_map, Ends.get_map, Ends.get_ofFn]
  exact ⟨Ends.ofFn instantAt, hmillis, readEnds_some_iff.mpr ⟨raw, h, hmillis⟩⟩

theorem millis_get {ends : Ends Instant} (h : ends.millis = raw.map m.collapse) (axis : Axis) :
    (ends.get axis).millis = m.collapse (raw.get axis) := by
  have hget := congrArg (fun e => e.get axis) h
  simpa only [Ends.millis, Ends.get_map] using hget

-- ---------------------------------------------------------------------------
-- Each rule is what storing does
-- ---------------------------------------------------------------------------

theorem store_of_readEnds {read : Ends (Option Instant)} (h : m.readEnds record = .ok read)
    (hpresent : ∃ axis, read.get axis ≠ none) :
    m.store record = (m.validate read).map fun ends => some (m.stored ends) := by
  have hall : ¬ (read.toList.all Option.isNone) = true := by
    obtain ⟨axis, haxis⟩ := hpresent
    intro hnone
    have := List.all_eq_true.mp hnone _ (Ends.mem_toList.mpr ⟨axis, rfl⟩)
    exact haxis (Option.isNone_iff_eq_none.mp this)
  have hstore : m.store record = (do return some (m.stored (← m.validate read))) := by
    rw [store, h]
    exact if_neg hall
  rw [hstore]
  cases m.validate read <;> rfl

theorem validate_missing {read : Ends (Option Instant)} {axis : Axis}
    (hbefore : ∀ a ∈ axis.earlier, read.get a ≠ none) (h : read.get axis = none) :
    m.validate read = .error (.input (.missingEnd axis)) := by
  have hcomplete : complete read = .error (.missingEnd axis) := by
    refine Ends.forAll?_error axis (fun a ha => ?_) (by rw [h])
    obtain ⟨i, hi⟩ := Option.ne_none_iff_exists'.mp (hbefore a ha)
    exact ⟨i, by rw [hi]⟩
  rw [validate, hcomplete]
  rfl

theorem Denotes.checkOrder_ok (h : m.Denotes record raw) {ends : Ends Instant} (start stop : Axis)
    (hmillis : ends.millis = raw.map m.collapse) (hle : raw.get start ≤ raw.get stop) :
    m.checkOrder ends start stop = .ok () := by
  rw [BitemporalMapper.checkOrder_ok, millis_get hmillis, millis_get hmillis]
  exact (collapse_le_iff (h start).2 (h stop).2).mpr hle

theorem Denotes.checkOrder_error (h : m.Denotes record raw) {ends : Ends Instant}
    (start stop : Axis) {startText stopText : String} (hmillis : ends.millis = raw.map m.collapse)
    (hlt : raw.get stop < raw.get start)
    (hstart : m.format.write (m.collapse (raw.get start)) = .ok startText)
    (hstop : m.format.write (m.collapse (raw.get stop)) = .ok stopText) :
    m.checkOrder ends start stop = .error (.input (.inverted start stop
      (m.collapse (raw.get start)) (m.collapse (raw.get stop)) startText stopText)) := by
  have hafter : (ends.get start).after (ends.get stop) = true := by
    rw [Instant.after, millis_get hmillis, millis_get hmillis, decide_eq_true_eq,
      ← Nat.not_le, collapse_le_iff (h start).2 (h stop).2]
    exact Nat.not_le.mpr hlt
  unfold checkOrder
  rw [if_pos hafter, Instant.write, Instant.write, millis_get hmillis, millis_get hmillis, hstart,
    hstop]
  rfl

theorem Denotes.exists_store (h : m.Denotes record raw) :
    ∃ ends : Ends Instant, ends.millis = raw.map m.collapse ∧
      m.store record = (do
        m.checkOrder ends .validFrom .validTo
        m.checkOrder ends .transactionFrom .transactionTo
        return some (m.stored ends)) := by
  obtain ⟨ends, hmillis, hends⟩ := h.exists_ends
  refine ⟨ends, hmillis, ?_⟩
  rw [store_of_readEnds hends ⟨.validFrom, by rw [Ends.get_map]; simp⟩, validate,
    complete_ok.mpr rfl]
  cases hvalid : m.checkOrder ends .validFrom .validTo <;>
    cases htransaction : m.checkOrder ends .transactionFrom .transactionTo <;>
    simp [Except.mapError, bind, Except.bind, pure, Except.pure, Except.map, hvalid, htransaction]

theorem Outcome.store_eq {result : Except Error (Option StoredInterval)}
    (h : m.Outcome record result) : m.store record = result := by
  cases h with
  | @refused e axis before refuses =>
    have hread : m.readEnds record = .error e := by
      refine Ends.forAll?_error axis (fun a ha => ?_) refuses.readInstant
      obtain ⟨read, hread, -⟩ := exists_readInstant (before a ha)
      exact ⟨read, hread⟩
    rw [store, hread]
    rfl
  | nothing absent => exact store_none_iff.mpr fun axis => readInstant_none_iff.mpr (absent axis)
  | missing axis readable before absent present =>
    choose read hread hnone using fun a => exists_readInstant (readable a)
    have hends : m.readEnds record = .ok (Ends.ofFn read) :=
      Ends.forAll?_ok.mpr fun a => by rw [Ends.get_ofFn]; exact hread a
    rw [store_of_readEnds hends, validate_missing]
    · rfl
    · intro a ha
      rw [Ends.get_ofFn, Ne, hnone a]
      exact before a ha
    · rw [Ends.get_ofFn, hnone axis]
      exact absent
    · obtain ⟨a, ha⟩ := present
      exact ⟨a, by rw [Ends.get_ofFn, Ne, hnone a]; exact ha⟩
  | validInverted denotes inverted startWritten stopWritten =>
    obtain ⟨ends, hmillis, hstore⟩ := denotes.exists_store
    have hvalid := denotes.checkOrder_error .validFrom .validTo hmillis inverted startWritten
      stopWritten
    rw [hstore, hvalid]
    rfl
  | transactionInverted denotes forward inverted startWritten stopWritten =>
    obtain ⟨ends, hmillis, hstore⟩ := denotes.exists_store
    have hvalid := denotes.checkOrder_ok .validFrom .validTo hmillis forward
    have htransaction := denotes.checkOrder_error .transactionFrom .transactionTo hmillis inverted
      startWritten stopWritten
    rw [hstore, hvalid, htransaction]
    rfl
  | @stored raw ends denotes validForward transactionForward collapsed =>
    have hvalid := denotes.checkOrder_ok .validFrom .validTo collapsed validForward
    have htransaction := denotes.checkOrder_ok .transactionFrom .transactionTo collapsed
      transactionForward
    exact store_some_iff.mpr ⟨ends, readEnds_some_iff.mpr ⟨raw, denotes, collapsed⟩,
      ⟨checkOrder_ok.mp hvalid, checkOrder_ok.mp htransaction⟩, rfl⟩

theorem exists_outcome (hrenders : m.format.Renders) (record : Record) :
    ∃ result, m.Outcome record result := by
  by_cases hrefused : ∃ axis e, m.Refuses (m.valueAt record axis) e
  · -- Whatever else is wrong, the first column that is refused decides.
    obtain ⟨axis, ⟨e, he⟩, hbefore⟩ := Axis.exists_first hrefused
    exact ⟨_, .refused axis (fun a ha => not_exists.mp (hbefore a ha)) he⟩
  have hreadable : ∀ a e, ¬ m.Refuses (m.valueAt record a) e := by
    intro a e he
    exact hrefused ⟨a, e, he⟩
  by_cases hnothing : ∀ axis, m.valueAt record axis = .null
  · exact ⟨_, .nothing hnothing⟩
  by_cases hmissing : ∃ axis, m.valueAt record axis = .null
  · obtain ⟨axis, hnull, hbefore⟩ := Axis.exists_first hmissing
    exact ⟨_, .missing axis hreadable hbefore hnull (not_forall.mp hnothing)⟩
  -- All four columns are there and can be read, so only the two orders are left.
  have hcounts : ∀ axis, ∃ n, m.Reads (m.valueAt record axis) n := by
    intro axis
    rcases m.refuses_or (m.valueAt record axis) with ⟨e, he⟩ | hnull | hreads
    · exact absurd he (hreadable axis e)
    · exact absurd ⟨axis, hnull⟩ hmissing
    · exact hreads
  choose count hcount using hcounts
  have hdenotes : m.Denotes record (Ends.ofFn count) := fun axis => by
    rw [Ends.get_ofFn]
    exact hcount axis
  rcases Nat.lt_or_ge (count .validTo) (count .validFrom) with hvalid | hvalid
  · obtain ⟨startText, hstart⟩ := hrenders (m.collapse (count .validFrom))
    obtain ⟨stopText, hstop⟩ := hrenders (m.collapse (count .validTo))
    exact ⟨_, .validInverted hdenotes hvalid hstart hstop⟩
  rcases Nat.lt_or_ge (count .transactionTo) (count .transactionFrom) with
    htransaction | htransaction
  · obtain ⟨startText, hstart⟩ := hrenders (m.collapse (count .transactionFrom))
    obtain ⟨stopText, hstop⟩ := hrenders (m.collapse (count .transactionTo))
    exact ⟨_, .transactionInverted hdenotes hvalid htransaction hstart hstop⟩
  · obtain ⟨ends, hmillis, -⟩ := hdenotes.exists_ends
    exact ⟨_, .stored hdenotes hvalid htransaction hmillis⟩

/-- A record is stored, passed over or rejected as the rules say, and no two rules disagree. -/
theorem store_eq_iff_outcome (hrenders : m.format.Renders) (record : Record)
    (result : Except Error (Option StoredInterval)) :
    m.store record = result ↔ m.Outcome record result := by
  constructor
  · rintro rfl
    obtain ⟨result, houtcome⟩ := exists_outcome hrenders record
    rw [houtcome.store_eq]
    exact houtcome
  · intro houtcome
    exact houtcome.store_eq

/-- An instant before the epoch wins over an inverted axis in front of it and a missing end behind
it. -/
theorem store_eq_iff_outcome_negative :
    ∃ m, standard "name" = .ok m ∧ m.format.Renders ∧
      m.store (OrderedMap.ofList [("vt_from", .int 5), ("vt_to", .int 3), ("tt_from", .int (-1))]) =
        .error (.input (.negativeInstant (-1))) := by
  obtain ⟨m, hm⟩ : ∃ m, standard "name" = .ok m := exists_standard (by decide)
  obtain ⟨-, rfl⟩ := standard_ok.mp hm
  have hrenders : (InstantFormat.ofPattern none).Renders :=
    InstantFormat.renders_of_characters (by decide)
  refine ⟨_, hm, hrenders, (store_eq_iff_outcome hrenders _ _).mpr
    (.refused .transactionFrom (fun a ha e => ?_)
      (.negative (read_int _ (by decide)) (by decide)))⟩
  have hearlier : a = .validFrom ∨ a = .validTo := by
    cases a <;> revert ha <;> decide
  rcases hearlier with rfl | rfl
  · exact Reads.not_refuses (n := 5) (reads_int (by decide))
  · exact Reads.not_refuses (n := 3) (reads_int (by decide))

end BitemporalMapper

end Bitemporal
