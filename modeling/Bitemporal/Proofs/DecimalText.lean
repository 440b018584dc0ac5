import Bitemporal.Proofs.ShortestLaws

/-!
# The text of a double reads back

A finite double is written as a spelling: digits, perhaps a point with more digits and perhaps an
exponent. Positional or not, a spelling denotes the shortest decimal of the double, and reading it
gives the double again.
-/

namespace Bitemporal.Binary64

open Numeral (digitChar Decimal ofDigits)

-- ---------------------------------------------------------------------------
-- Spellings
-- ---------------------------------------------------------------------------

/-- A decimal as it is written: without needless zeros in front, and told from an integer by its
fraction or its exponent. -/
structure Spelling where
  whole : List Nat
  fraction : List Nat
  exponent : Option Int
  decimal_whole : Decimal whole
  decimal_fraction : Decimal fraction
  leading : whole = [0] ∨ ∃ d ds, whole = d :: ds ∧ d ≠ 0
  distinct : fraction ≠ [] ∨ exponent.isSome = true

namespace Spelling

def fractionChars : List Nat → List Char
  | [] => []
  | ds => '.' :: ds.map digitChar

def exponentChars : Option Int → List Char
  | none => []
  | some e => 'e' :: exponentDigits e

def chars (s : Spelling) : List Char :=
  s.whole.map digitChar ++ (fractionChars s.fraction ++ exponentChars s.exponent)

def digits (s : Spelling) : Nat := ofDigits (s.whole ++ s.fraction)

/-- The power of ten that the digits are counted in. -/
def scale (s : Spelling) : Int := s.exponent.getD 0 - s.fraction.length

end Spelling

theorem fractionChars_of_ne_nil {ds : List Nat} (h : ds ≠ []) :
    Spelling.fractionChars ds = '.' :: ds.map digitChar := by
  cases ds with
  | nil => exact absurd rfl h
  | cons d ds => rfl

-- One spelling for each branch of the layout of the digits.

theorem exists_spelling_small {all : List Nat} (hdecimal : Decimal all) (hnil : all ≠ [])
    (n : Nat) : ∃ s : Spelling,
    '0' :: '.' :: (List.replicate n '0' ++ all.map digitChar) = s.chars ∧
      s.digits = ofDigits all ∧ s.scale = -((n : Int) + all.length) := by
  have hne : List.replicate n 0 ++ all ≠ [] := List.append_ne_nil_of_right_ne_nil _ hnil
  refine ⟨⟨[0], List.replicate n 0 ++ all, none, by decide,
    (Numeral.decimal_replicate (by decide) n).append hdecimal, .inl rfl, .inl hne⟩, ?_, ?_, ?_⟩
  · rw [Spelling.chars, fractionChars_of_ne_nil hne, List.map_append, List.map_replicate]
    exact (List.append_nil _).symm
  · exact (Numeral.ofDigits_zeros_append 1 _).trans (Numeral.ofDigits_zeros_append n all)
  · rw [Spelling.scale, List.length_append, List.length_replicate]
    dsimp only [Option.getD_none]
    omega

theorem exists_spelling_whole {all : List Nat} (hdecimal : Decimal all)
    (hhead : ∃ d ds, all = d :: ds ∧ d ≠ 0) (n : Nat) : ∃ s : Spelling,
    all.map digitChar ++ List.replicate n '0' ++ ['.', '0'] = s.chars ∧
      s.digits = ofDigits all * 10 ^ (n + 1) ∧ s.scale = -1 := by
  obtain ⟨d, ds, rfl, hd⟩ := hhead
  refine ⟨⟨d :: ds ++ List.replicate n 0, [0], none,
    hdecimal.append (Numeral.decimal_replicate (by decide) n), by decide,
    .inr ⟨d, ds ++ List.replicate n 0, rfl, hd⟩, .inl (List.cons_ne_nil _ _)⟩, ?_, ?_, rfl⟩
  · rw [Spelling.chars, List.map_append, List.map_replicate]
    rfl
  · rw [Spelling.digits, List.append_assoc, ← List.replicate_succ', Numeral.ofDigits_append_zeros]

theorem exists_spelling_point {all : List Nat} (hdecimal : Decimal all)
    (hhead : ∃ d ds, all = d :: ds ∧ d ≠ 0) {p : Nat} (hpos : 0 < p) (hlt : p < all.length) :
    ∃ s : Spelling,
    (all.map digitChar).take p ++ '.' :: (all.map digitChar).drop p = s.chars ∧
      s.digits = ofDigits all ∧ s.scale = (p : Int) - all.length := by
  obtain ⟨d, ds, hall, hd⟩ := hhead
  have hne : all.drop p ≠ [] := by
    rw [ne_eq, List.drop_eq_nil_iff]
    omega
  refine ⟨⟨all.take p, all.drop p, none, fun e he => hdecimal e (List.mem_of_mem_take he),
    fun e he => hdecimal e (List.mem_of_mem_drop he),
    .inr ⟨d, ds.take (p - 1), by rw [hall, List.take_cons hpos], hd⟩, .inl hne⟩, ?_, ?_, ?_⟩
  · rw [Spelling.chars, fractionChars_of_ne_nil hne, List.map_take, List.map_drop]
    exact congrArg _ (List.append_nil _).symm
  · rw [Spelling.digits, List.take_append_drop]
  · rw [Spelling.scale, List.length_drop]
    dsimp only [Option.getD_none]
    omega

theorem exists_spelling_exponent {d : Nat} {ds : List Nat} (hdecimal : Decimal (d :: ds))
    (hd : d ≠ 0) (e : Int) : ∃ s : Spelling,
    digitChar d :: (Spelling.fractionChars ds ++ 'e' :: exponentDigits e) = s.chars ∧
      s.digits = ofDigits (d :: ds) ∧ s.scale = e - ds.length := by
  obtain ⟨hhead, htail⟩ := List.forall_mem_cons.mp hdecimal
  exact ⟨⟨[d], ds, some e, by simpa [Decimal] using hhead, htail, .inr ⟨d, [], rfl, hd⟩,
    .inr rfl⟩, rfl, rfl, rfl⟩

/-- Digits are laid out as a spelling of the decimal. -/
theorem exists_layout {digits : Nat} {k : Int} (h : digits ≠ 0) :
    ∃ s : Spelling, layout (Numeral.natDigits digits) k = s.chars ∧
      decimal s.digits s.scale = decimal digits k := by
  have hhead := Numeral.head_digits h
  have hdecimal := Numeral.decimal_digits digits
  have hvalue := Numeral.ofDigits_digits digits
  have hnil := Numeral.digits_ne_nil digits
  rw [Numeral.natDigits_eq]
  generalize Numeral.digits digits = all at *
  unfold layout
  dsimp only
  rw [List.length_map]
  split
  case isTrue hpoint =>
    split
    case isTrue hsmall =>
      obtain ⟨s, hs, hdigits, hscale⟩ :=
        exists_spelling_small hdecimal hnil (-(all.length + k)).toNat
      refine ⟨s, hs, ?_⟩
      rw [hdigits, hvalue, hscale]
      congr 1
      omega
    case isFalse hlarge =>
      split
      case isTrue hwhole =>
        obtain ⟨s, hs, hdigits, hscale⟩ := exists_spelling_whole hdecimal hhead k.toNat
        refine ⟨s, hs, ?_⟩
        rw [hdigits, hvalue, hscale, ← decimal_add]
        congr 1
        omega
      case isFalse hfraction =>
        obtain ⟨s, hs, hdigits, hscale⟩ := exists_spelling_point hdecimal hhead
          (show 0 < (all.length + k).toNat by omega) (by omega)
        refine ⟨s, hs, ?_⟩
        rw [hdigits, hvalue, hscale]
        congr 1
        omega
  case isFalse hpoint =>
    obtain ⟨d, ds, rfl, hd⟩ := hhead
    obtain ⟨s, hs, hdigits, hscale⟩ :=
      exists_spelling_exponent hdecimal hd (((d :: ds).length : Int) + k - 1)
    refine ⟨s, Eq.trans ?_ hs, ?_⟩
    · cases ds <;> rfl
    · rw [hdigits, hvalue, hscale]
      congr 1
      rw [List.length_cons]
      omega

-- ---------------------------------------------------------------------------
-- Reading spellings
-- ---------------------------------------------------------------------------

variable {ds : List Nat} {rest : List Char}

/-- What follows digits does not continue them. -/
def Stops (rest : List Char) : Prop :=
  ∀ c ∈ rest.head?, Text.digitValue? c = none ∧ c ≠ '_'

theorem spanDigits_of_stops (h : Stops rest) : spanDigits rest = ([], rest) := by
  cases rest with
  | nil => rfl
  | cons c rest =>
    obtain ⟨hc, -⟩ := h c rfl
    unfold spanDigits
    split <;> simp_all

theorem spanDigits_map (hds : Decimal ds) (h : Stops rest) :
    spanDigits (ds.map digitChar ++ rest) = (ds, rest) := by
  induction ds with
  | nil => exact spanDigits_of_stops h
  | cons d ds ih =>
    obtain ⟨hd, hds⟩ := List.forall_mem_cons.mp hds
    have hnext : ∀ c ∈ (ds.map digitChar ++ rest).head?, c ≠ '_' := by
      cases ds with
      | nil => exact fun c hc => (h c hc).2
      | cons e es =>
        rintro c ⟨rfl⟩
        exact Numeral.digitChar_ne_underscore e (hds e List.mem_cons_self)
    rw [List.map_cons, List.cons_append, spanDigits, Numeral.digitValue?_digitChar d hd, ih hds]
    rintro next tail heq
    exact hnext '_' (by rw [heq]; rfl) rfl

/-- An exponent is a sign and digits. -/
theorem exists_exponentDigits (e : Int) : ∃ d ds, Decimal (d :: ds) ∧
    ofDigits (d :: ds) = e.natAbs ∧
    exponentDigits e = (if e < 0 then '-' else '+') :: (d :: ds).map digitChar := by
  have hdecimal := Numeral.decimal_digits e.natAbs
  have hvalue := Numeral.ofDigits_digits e.natAbs
  rw [exponentDigits, Numeral.natDigits_eq]
  by_cases hshort : e.natAbs < 10
  · rw [if_pos hshort]
    exact ⟨0, Numeral.digits e.natAbs, List.forall_mem_cons.mpr ⟨by decide, hdecimal⟩,
      (Numeral.ofDigits_zeros_append 1 _).trans hvalue, rfl⟩
  · rw [if_neg hshort]
    obtain ⟨d, ds, hds, -⟩ := Numeral.head_digits (n := e.natAbs) (by omega)
    exact ⟨d, ds, hds ▸ hdecimal, hds ▸ hvalue, by rw [hds]⟩

theorem readExponent?_exponentChars (e : Option Int) :
    readExponent? (Spelling.exponentChars e) = some (e.getD 0) := by
  cases e with
  | none => rfl
  | some e =>
    obtain ⟨d, ds, hds, hvalue, hchars⟩ := exists_exponentDigits e
    have hspan := spanDigits_map hds (show Stops [] from fun c hc => nomatch hc)
    rw [List.append_nil] at hspan
    rw [Spelling.exponentChars, hchars]
    by_cases hnegative : e < 0
    · rw [if_pos hnegative, readExponent?, if_pos (.inl rfl)]
      simp only [hspan, hvalue]
      refine congrArg some ?_
      rw [if_pos trivial, Option.getD_some]
      omega
    · rw [if_neg hnegative, readExponent?, if_pos (.inl rfl)]
      simp only [hspan, hvalue]
      refine congrArg some ?_
      rw [if_neg Bool.false_ne_true, Option.getD_some]
      omega

theorem stops_exponentChars (e : Option Int) : Stops (Spelling.exponentChars e) := by
  cases e with
  | none => exact fun c hc => nomatch hc
  | some e =>
    rintro c ⟨rfl⟩
    decide

theorem stops_fractionChars (ds : List Nat) (e : Option Int) :
    Stops (Spelling.fractionChars ds ++ Spelling.exponentChars e) := by
  cases ds with
  | nil => exact stops_exponentChars e
  | cons d ds =>
    rintro c ⟨rfl⟩
    decide

theorem spanFraction_fractionChars (hds : Decimal ds) (e : Option Int) :
    spanFraction (Spelling.fractionChars ds ++ Spelling.exponentChars e) =
      (ds, Spelling.exponentChars e) := by
  cases ds with
  | nil => cases e <;> rfl
  | cons d ds =>
    have hd := Numeral.digitChar_ne_underscore d (hds d List.mem_cons_self)
    change spanFraction ('.' :: ((d :: ds).map digitChar ++ Spelling.exponentChars e)) = _
    rw [spanFraction]
    · exact spanDigits_map hds (stops_exponentChars e)
    · intro tail heq
      exact hd (List.cons.inj heq).1

/-- A spelling is read as the decimal that it denotes. -/
theorem readMagnitude?_chars (negative : Bool) (s : Spelling) :
    readMagnitude? negative s.chars = some (ofDecimal negative s.digits s.scale) := by
  have hwhole : s.whole.isEmpty = false := by
    rcases s.leading with h | ⟨d, ds, h, -⟩ <;> rw [h] <;> rfl
  rw [readMagnitude?, Spelling.chars, spanDigits_map s.decimal_whole (stops_fractionChars _ _)]
  dsimp only
  rw [spanFraction_fractionChars s.decimal_fraction]
  dsimp only
  rw [hwhole, readExponent?_exponentChars]
  rfl

/-- The text of a magnitude is a spelling that reads back. -/
theorem exists_magnitudeText (negative : Bool) {units : Nat} (h : Representable units) :
    ∃ s : Spelling, magnitudeText units = s.chars ∧
      readMagnitude? negative s.chars = some (.finite negative units h) := by
  unfold magnitudeText
  by_cases hzero : units = 0
  · subst hzero
    refine ⟨⟨[0], [0], none, by decide, by decide, .inl rfl, .inl (List.cons_ne_nil _ _)⟩, rfl, ?_⟩
    rw [readMagnitude?_chars, ofDecimal, if_pos (by decide), ofRounded_eq h]
  · have hpos : 0 < units := Nat.pos_of_ne_zero hzero
    have hshortest := shortest_readsBack h hpos
    rw [← dropZeros_decimal 18] at hshortest
    rw [if_neg hzero]
    dsimp only
    generalize dropZeros 18 _ _ = found at hshortest ⊢
    obtain ⟨s, hs, hdecimal⟩ := exists_layout (ne_zero_of_roundsTo h hpos hshortest)
    refine ⟨s, hs, ?_⟩
    rw [readMagnitude?_chars, ofDecimal_of_roundsTo negative h hpos (hdecimal ▸ hshortest)]

-- ---------------------------------------------------------------------------
-- Whole texts
-- ---------------------------------------------------------------------------

/-- A spelling starts with a digit. -/
theorem Spelling.head_chars (s : Spelling) :
    ∃ d < 10, ∃ rest, s.chars = digitChar d :: rest := by
  rcases s.leading with h | ⟨d, ds, h, -⟩
  · exact ⟨0, by decide, _, by rw [chars, h]; rfl⟩
  · exact ⟨d, s.decimal_whole d (h ▸ List.mem_cons_self), _, by rw [chars, h]; rfl⟩

theorem isMargin_digitChar : ∀ d < 10, Numeral.isMargin (digitChar d) = false := by decide

theorem Spelling.isMargin_chars (s : Spelling) : ∀ c ∈ s.chars, Numeral.isMargin c = false := by
  have hdigits {ds : List Nat} (h : Decimal ds) :
      ∀ c ∈ ds.map digitChar, Numeral.isMargin c = false :=
    List.forall_mem_map.mpr fun d hd => isMargin_digitChar d (h d hd)
  have hfraction : ∀ c ∈ fractionChars s.fraction, Numeral.isMargin c = false := by
    have h := hdigits s.decimal_fraction
    cases hs : s.fraction with
    | nil => exact fun c hc => nomatch hc
    | cons d ds => exact List.forall_mem_cons.mpr ⟨by decide, hs ▸ h⟩
  have hexponent : ∀ c ∈ exponentChars s.exponent, Numeral.isMargin c = false := by
    cases s.exponent with
    | none => exact fun c hc => nomatch hc
    | some e =>
      obtain ⟨d, ds, hds, -, hchars⟩ := exists_exponentDigits e
      rw [exponentChars, hchars]
      refine List.forall_mem_cons.mpr ⟨by decide, List.forall_mem_cons.mpr ⟨?_, hdigits hds⟩⟩
      split <;> decide
  exact List.forall_mem_append.mpr ⟨hdigits s.decimal_whole,
    List.forall_mem_append.mpr ⟨hfraction, hexponent⟩⟩

theorem trimMargins_of_none {cs : List Char} (h : ∀ c ∈ cs, Numeral.isMargin c = false) :
    Numeral.trimMargins cs = cs := by
  have hdrop {ds : List Char} (h : ∀ c ∈ ds, Numeral.isMargin c = false) :
      ds.dropWhile Numeral.isMargin = ds := by
    cases ds with
    | nil => rfl
    | cons d ds => rw [List.dropWhile_cons_of_neg (by simp [h d List.mem_cons_self])]
  rw [Numeral.trimMargins, hdrop h, hdrop (by simpa using h), List.reverse_reverse]

/-- The names of numbers do not start with a digit. -/
theorem named?_digit {d : Nat} (hd : d < 10) (negative : Bool) (rest : List Char) :
    named? negative (digitChar d :: rest) = none := by
  have hhead : ∀ d < 10, (digitChar d).toLower ≠ 'i' ∧ (digitChar d).toLower ≠ 'n' := by decide
  have hne {name : String} {c : Char} {cs : List Char} (hname : name.toList = c :: cs)
      (hc : (digitChar d).toLower ≠ c) :
      String.ofList ((digitChar d :: rest).map Char.toLower) ≠ name := by
    rintro rfl
    rw [String.toList_ofList, List.map_cons] at hname
    exact hc (List.cons.inj hname).1
  obtain ⟨hi, hn⟩ := hhead d hd
  rw [named?, if_neg (not_or.mpr ⟨hne rfl hi, hne rfl hi⟩), if_neg (hne rfl hn)]

/-- Every double is read back from its text. -/
theorem ofText?_text (x : Binary64) : ofText? x.text = some x := by
  cases x with
  | nan => decide
  | infinite negative => cases negative <;> decide
  | finite negative units h =>
    obtain ⟨s, hs, hread⟩ := exists_magnitudeText negative h
    obtain ⟨d, hd, rest, hchars⟩ := s.head_chars
    have hsign : ∀ d < 10, digitChar d ≠ '-' ∧ digitChar d ≠ '+' := by decide
    obtain ⟨hminus, hplus⟩ := hsign d hd
    have hnamed := named?_digit hd negative rest
    have hmargin := s.isMargin_chars
    rw [hchars] at hs hread hmargin
    cases negative with
    | false =>
      rw [ofText?, text, hs, String.toList_ofList, read?, trimMargins_of_none hmargin]
      split
      case h_1 body hbody =>
        split at hbody
        case h_1 r hr => exact absurd (List.cons.inj hr).1 hminus
        case h_2 r hr => exact absurd (List.cons.inj hr).1 hplus
        case h_3 =>
          cases hbody
          exact congrArg₂ Option.or hnamed hread
    | true =>
      have hmargin : ∀ c ∈ '-' :: digitChar d :: rest, Numeral.isMargin c = false :=
        List.forall_mem_cons.mpr ⟨by decide, hmargin⟩
      rw [ofText?, text, hs, String.toList_ofList, read?, trimMargins_of_none hmargin]
      exact congrArg₂ Option.or hnamed hread

end Bitemporal.Binary64
