import Bitemporal.Proofs.NumeralLaws

/-!
# Texts of digits

A text is taken for a count when nothing but digits of any kind stands between its blanks. Numerals
are read by stricter rules: their digits are decimal, there is a limit on them, and not every blank
may surround them. `readInt?_count` and `readInt?_of_unreadable` say what becomes of such a text.
-/

namespace Bitemporal

namespace Text

/-- A text that is taken for a count. -/
def LooksLikeCount (s : String) : Prop :=
  trimmed s ≠ [] ∧ ∀ c ∈ trimmed s, isDigitLike c = true

-- ---------------------------------------------------------------------------
-- What is dropped at both ends
-- ---------------------------------------------------------------------------

/-- The characters between the first and the last that fail a test. -/
def dropEnds (p : Char → Bool) (cs : List Char) : List Char :=
  ((cs.dropWhile p).reverse.dropWhile p).reverse

section

variable {p q : Char → Bool} {cs : List Char} {c : Char}

theorem mem_dropWhile (p : Char → Bool) (h : c ∈ cs) : p c = true ∨ c ∈ cs.dropWhile p := by
  rw [← List.takeWhile_append_dropWhile (p := p) (l := cs)] at h
  exact (List.mem_append.mp h).imp_left (List.all_eq_true.mp List.all_takeWhile c)

theorem mem_dropEnds (p : Char → Bool) (h : c ∈ cs) : p c = true ∨ c ∈ dropEnds p cs := by
  rcases mem_dropWhile p h with hp | hfront
  · exact .inl hp
  · exact (mem_dropWhile p (List.mem_reverse.mpr hfront)).imp_right List.mem_reverse.mpr

theorem of_mem_dropEnds (h : c ∈ dropEnds p cs) : c ∈ cs := by
  have hback := (List.dropWhile_sublist p).mem (List.mem_reverse.mp h)
  exact (List.dropWhile_sublist p).mem (List.mem_reverse.mp hback)

theorem dropWhile_congr (h : ∀ c ∈ cs, p c = q c) : cs.dropWhile p = cs.dropWhile q := by
  induction cs with
  | nil => rfl
  | cons c cs ih =>
    rw [List.dropWhile_cons, List.dropWhile_cons, h c List.mem_cons_self,
      ih fun d hd => h d (List.mem_cons_of_mem c hd)]

theorem dropEnds_congr (h : ∀ c ∈ cs, p c = q c) : dropEnds p cs = dropEnds q cs := by
  rw [dropEnds, dropWhile_congr h, dropWhile_congr fun c hc => h c ?_, dropEnds]
  exact (List.dropWhile_sublist q).mem (List.mem_reverse.mp hc)

end

-- ---------------------------------------------------------------------------
-- Digits are no blanks
-- ---------------------------------------------------------------------------

theorem exists_digitRange {c : Char} (h : isDigitLike c = true) :
    ∃ range ∈ decimalDigitRanges ++ otherDigitRanges, range.1 ≤ c.toNat ∧ c.toNat ≤ range.2 := by
  rcases Bool.or_eq_true_iff.mp h with h | h
  · unfold isDecimalDigit digitValue? at h
    split at h
    case isTrue hascii => exact ⟨(0x30, 0x39), by decide, hascii⟩
    case isFalse =>
      split at h
      · cases h
      · rw [Option.isSome_map, List.find?_isSome] at h
        obtain ⟨range, hmem, hrange⟩ := h
        exact ⟨range, List.mem_append_left _ hmem, by simpa using hrange⟩
  · obtain ⟨range, hmem, hrange⟩ := List.any_eq_true.mp h
    exact ⟨range, List.mem_append_right _ hmem, by simpa using hrange⟩

theorem isBlank_of_isDigitLike {c : Char} (h : isDigitLike c = true) : isBlank c = false := by
  -- The ranges are compared and not the characters, of which there are too many.
  have hapart : ∀ digits ∈ decimalDigitRanges ++ otherDigitRanges, ∀ blanks ∈ blankRanges,
      digits.2 < blanks.1 ∨ blanks.2 < digits.1 := by decide +kernel
  obtain ⟨digits, hdigits, hlow, hhigh⟩ := exists_digitRange h
  rw [isBlank, inRanges, List.any_eq_false]
  intro blanks hblanks
  rw [Bool.and_eq_true, decide_eq_true_eq, decide_eq_true_eq]
  have := hapart digits hdigits blanks hblanks
  omega

theorem LooksLikeCount.mem {s : String} (h : LooksLikeCount s) {c : Char} (hc : c ∈ s.toList) :
    isBlank c = true ∨ isDigitLike c = true :=
  (mem_dropEnds isBlank hc).imp_right (h.2 c)

end Text

namespace Numeral

/-- A text that is taken for a count, but cannot be read as one: for a character that has no place
in a numeral, or for too many digits. -/
def Unreadable (s : String) : Prop :=
  (∃ c ∈ s.toList, isMargin c = false ∧ Text.isDecimalDigit c = false) ∨
    maxDigits < (Text.trimmed s).length

/-- The count that a text of decimal digits between blanks spells. -/
def countOf (s : String) : Nat := ofDigits ((Text.trimmed s).filterMap Text.digitValue?)

section

variable {cs : List Char} {s : String}

theorem groupedDigits?_of_forall (hnil : cs ≠ []) (h : ∀ c ∈ cs, Text.isDecimalDigit c = true) :
    groupedDigits? cs = some (cs.filterMap Text.digitValue?) := by
  fun_induction groupedDigits? cs with
  | case1 => exact absurd rfl hnil
  | case2 c =>
    obtain ⟨d, hd⟩ := Option.isSome_iff_exists.mp (h c (by simp))
    simp [hd]
  | case3 c rest ih => exact absurd (h '_' (by simp)) (by decide)
  | case4 c rest hrest hunderscore ih =>
    obtain ⟨d, hd⟩ := Option.isSome_iff_exists.mp (h c (by simp))
    rw [ih (fun hnil => hrest (by rw [hnil])) fun x hx => h x (List.mem_cons_of_mem c hx),
      List.filterMap_cons, hd]
    rfl

theorem of_digit_before {c : Char} {rest : List Char} {ds : List Nat}
    (h : (do return (← Text.digitValue? c) :: (← groupedDigits? rest)) = some ds) :
    Text.isDecimalDigit c = true ∧ ∃ tail, groupedDigits? rest = some tail := by
  obtain ⟨d, hd, htail⟩ := Option.bind_eq_some_iff.mp h
  obtain ⟨tail, htail, -⟩ := Option.bind_eq_some_iff.mp htail
  exact ⟨Option.isSome_iff_exists.mpr ⟨d, hd⟩, tail, htail⟩

theorem isDecimalDigit_of_groupedDigits? {ds : List Nat} (h : groupedDigits? cs = some ds) :
    ∀ c ∈ cs, c = '_' ∨ Text.isDecimalDigit c = true := by
  fun_induction groupedDigits? cs generalizing ds with
  | case1 => cases h
  | case2 c =>
    obtain ⟨d, hd, -⟩ := Option.map_eq_some_iff.mp h
    simp [Text.isDecimalDigit, hd]
  | case3 c rest ih =>
    obtain ⟨hc, tail, htail⟩ := of_digit_before h
    simpa [hc] using ih htail
  | case4 c rest hrest hunderscore ih =>
    obtain ⟨hc, tail, htail⟩ := of_digit_before h
    simpa [hc] using ih htail

/-- The characters that a numeral is made of. -/
def Admitted (c : Char) : Prop :=
  isMargin c = true ∨ c = '-' ∨ c = '+' ∨ c = '_' ∨ Text.isDecimalDigit c = true

theorem admitted_of_readNat? {n : Nat} (h : readNat? cs = some n) : ∀ c ∈ cs, Admitted c := by
  obtain ⟨ds, hds, -⟩ := Option.bind_eq_some_iff.mp h
  intro c hc
  exact .inr (.inr (.inr (isDecimalDigit_of_groupedDigits? hds c hc)))

theorem admitted_of_readInt? {n : Int} (h : readInt? cs = some n) : ∀ c ∈ cs, Admitted c := by
  have htrimmed : ∀ c ∈ trimMargins cs, Admitted c := by
    unfold readInt? at h
    split at h
    · next rest hrest =>
      rw [hrest, List.forall_mem_cons]
      cases hread : readNat? rest with
      | none => simp [hread] at h
      | some k => exact ⟨.inr (.inl rfl), admitted_of_readNat? hread⟩
    · next rest hrest =>
      rw [hrest, List.forall_mem_cons]
      cases hread : readNat? rest with
      | none => simp [hread] at h
      | some k => exact ⟨.inr (.inr (.inl rfl)), admitted_of_readNat? hread⟩
    · cases hread : readNat? (trimMargins cs) with
      | none => simp [hread] at h
      | some k => exact admitted_of_readNat? hread
  intro c hc
  rcases Text.mem_dropEnds isMargin hc with hmargin | hmem
  · exact .inl hmargin
  · exact htrimmed c hmem

end

section

variable {s : String}

/-- A character that only looks like a digit, or a blank that may not surround a numeral. -/
theorem not_admitted {c : Char} (h : Text.isBlank c = true ∨ Text.isDigitLike c = true)
    (hmargin : isMargin c = false) (hdecimal : Text.isDecimalDigit c = false) : ¬ Admitted c := by
  have hother (d : Char) (hblank : Text.isBlank d = false) (hdigit : Text.isDigitLike d = false) :
      c ≠ d := by
    rintro rfl
    simp [hblank, hdigit] at h
  rintro (h' | h' | h' | h' | h')
  · simp [hmargin] at h'
  · exact hother '-' (by decide) (by decide) h'
  · exact hother '+' (by decide) (by decide) h'
  · exact hother '_' (by decide) (by decide) h'
  · simp [hdecimal] at h'

theorem trimMargins_count
    (hclean : ∀ c ∈ s.toList, isMargin c = true ∨ Text.isDecimalDigit c = true) :
    trimMargins s.toList = Text.trimmed s := by
  refine Text.dropEnds_congr fun c hc => ?_
  rcases hclean c hc with hmargin | hdecimal
  · have hblank := hmargin
    rw [isMargin, Bool.and_eq_true] at hblank
    rw [hmargin, hblank.1]
  · have hblank := Text.isBlank_of_isDigitLike (Bool.or_eq_true_iff.mpr (.inl hdecimal))
    rw [isMargin, hblank, Bool.false_and]

theorem readNat?_of_forall {cs : List Char} (hnil : cs ≠ [])
    (h : ∀ c ∈ cs, Text.isDecimalDigit c = true) :
    readNat? cs =
      if cs.length ≤ maxDigits then some (ofDigits (cs.filterMap Text.digitValue?)) else none := by
  have hlength : (cs.filterMap Text.digitValue?).length = cs.length :=
    List.filterMap_length_eq_length.mpr h
  rw [readNat?, groupedDigits?_of_forall hnil h, Option.bind_eq_bind, Option.bind_some, hlength]

theorem readInt?_trimmed (h : Text.LooksLikeCount s)
    (hclean : ∀ c ∈ s.toList, isMargin c = true ∨ Text.isDecimalDigit c = true) :
    readInt? s.toList =
      if (Text.trimmed s).length ≤ maxDigits then some (countOf s : Int) else none := by
  have hdecimal : ∀ c ∈ Text.trimmed s, Text.isDecimalDigit c = true := by
    intro c hc
    refine (hclean c (Text.of_mem_dropEnds hc)).resolve_left ?_
    rw [isMargin, Text.isBlank_of_isDigitLike (h.2 c hc), Bool.false_and]
    exact Bool.false_ne_true
  have hsign (sign : Char) (hsign : Text.isDecimalDigit sign = false) (rest : List Char) :
      Text.trimmed s ≠ sign :: rest := by
    intro hs
    have := hdecimal sign (by rw [hs]; exact List.mem_cons_self)
    rw [hsign] at this
    cases this
  rw [readInt?, trimMargins_count hclean]
  split
  · next rest hs => exact absurd hs (hsign '-' (by decide) rest)
  · next rest hs => exact absurd hs (hsign '+' (by decide) rest)
  · rw [readNat?_of_forall h.1 hdecimal]
    split <;> rfl

theorem clean_of_not_exists
    (h : ¬ ∃ c ∈ s.toList, isMargin c = false ∧ Text.isDecimalDigit c = false) :
    ∀ c ∈ s.toList, isMargin c = true ∨ Text.isDecimalDigit c = true := by
  intro c hc
  by_contra hstrange
  exact h ⟨c, hc, by simpa using hstrange⟩

theorem readInt?_count (h : Text.LooksLikeCount s) (hread : ¬ Unreadable s) :
    readInt? s.toList = some (countOf s : Int) := by
  obtain ⟨hchars, hlength⟩ := not_or.mp hread
  rw [readInt?_trimmed h (clean_of_not_exists hchars), if_pos (Nat.not_lt.mp hlength)]

theorem readInt?_of_unreadable (h : Text.LooksLikeCount s) (hunreadable : Unreadable s) :
    readInt? s.toList = none := by
  by_cases hchars : ∃ c ∈ s.toList, isMargin c = false ∧ Text.isDecimalDigit c = false
  · obtain ⟨c, hc, hmargin, hdecimal⟩ := hchars
    cases hread : readInt? s.toList with
    | none => rfl
    | some n =>
      have hadmitted := admitted_of_readInt? hread c hc
      exact absurd hadmitted (not_admitted (h.mem hc) hmargin hdecimal)
  · have hlength := hunreadable.resolve_left hchars
    rw [readInt?_trimmed h (clean_of_not_exists hchars), if_neg (Nat.not_le.mpr hlength)]

end

end Numeral

end Bitemporal
