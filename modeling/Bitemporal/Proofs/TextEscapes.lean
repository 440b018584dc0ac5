import Mathlib.Algebra.Group.Nat.Defs
import Mathlib.Data.List.Chain
import Bitemporal.Json.Reader
import Bitemporal.Json.Writer

/-!
# Texts in JSON read back

Reading takes back one escape after another. A pair of escapes for the halves of a surrogate pair is
read as the one character beyond the first plane that it stands for. So a text comes back if it
holds no two halves next to each other that would make up a pair.
-/

namespace Bitemporal

namespace Text

theorem hexNumber?_append {cs ds : List Char} {n : Nat} (h : hexNumber? cs = some n) :
    hexNumber? (cs ++ ds) = ds.foldlM (fun n c => (hexValue? c).map fun d => 16 * n + d) n := by
  rw [hexNumber?, List.foldlM_append]
  exact congrArg (· >>= _) h

theorem hexNumber?_hexDigits {width n : Nat} (h : n < 16 ^ width) :
    hexNumber? (hexDigits width n) = some n := by
  induction width generalizing n with
  | zero =>
    obtain rfl : n = 0 := by omega
    rfl
  | succ width ih =>
    have hhead := ih (n := n / 16) (by omega)
    rw [hexDigits, hexNumber?_append hhead, List.foldlM_cons,
      hexValue?_hexDigit _ (Nat.mod_lt n (by decide))]
    exact congrArg some (Nat.div_add_mod n 16)

end Text

namespace Json

open Text (Point spell points)

variable {unit : Nat} {p q : Point} {ps : List Point} {rest : List Char}

-- ---------------------------------------------------------------------------
-- Escapes of units
-- ---------------------------------------------------------------------------

theorem exists_unitEscape (h : unit < 0x10000) : ∃ a b c d,
    unitEscape unit = ['\\', 'u', a, b, c, d] ∧ unitOf? a b c d = some unit :=
  ⟨_, _, _, _, rfl, Text.hexNumber?_hexDigits (show unit < 16 ^ 4 from h)⟩

/-- What goes on with the escape of the second half of a pair. -/
def StartsLow (rest : List Char) : Prop := ∃ e f g h tail unit,
  rest = '\\' :: 'u' :: e :: f :: g :: h :: tail ∧ unitOf? e f g h = some unit ∧
    isLowSurrogate unit = true

theorem readChars?_unitEscape (h : unit < 0x10000)
    (hpair : isHighSurrogate unit = true → ¬ StartsLow rest) :
    readChars? (unitEscape unit ++ rest) =
      (readChars? rest).map fun (cs, rest) => (charsOfUnit unit ++ cs, rest) := by
  obtain ⟨a, b, c, d, hescape, hunit⟩ := exists_unitEscape h
  rw [hescape]
  change readChars? ('\\' :: 'u' :: a :: b :: c :: d :: rest) = _
  rw [readChars?.eq_def]
  split
  case h_1 heq => exact nomatch heq
  case h_2 heq => exact absurd (List.cons.inj heq).1 (by decide)
  case h_3 e f g h tail heq =>
    obtain ⟨rfl, rfl, rfl, rfl, rfl⟩ := by simpa using heq
    rw [hunit]
    dsimp only
    split
    case h_1 low hhigh hlow =>
      rw [if_neg fun hsecond => hpair hhigh ⟨e, f, g, h, tail, low, rfl, hlow, hsecond⟩]
    case h_2 => rfl
  case h_4 heq =>
    obtain ⟨rfl, rfl, rfl, rfl, rfl⟩ := by simpa using heq
    rw [hunit]
  case h_5 hfour heq =>
    obtain ⟨rfl, rfl⟩ := by simpa using heq
    exact absurd rfl (hfour a b c d rest rfl)
  case h_6 hshort heq =>
    obtain ⟨rfl, rfl⟩ := by simpa using heq
    exact absurd rfl (hshort 'u' _ rfl)

theorem isHighSurrogate_iff : isHighSurrogate unit = true ↔ 0xd800 ≤ unit ∧ unit < 0xdc00 := by
  simp [isHighSurrogate]

theorem isLowSurrogate_iff : isLowSurrogate unit = true ↔ 0xdc00 ≤ unit ∧ unit < 0xe000 := by
  simp [isLowSurrogate]

theorem readChars?_pair {high low : Nat} (hhigh : isHighSurrogate high = true)
    (hlow : isLowSurrogate low = true) :
    readChars? (unitEscape high ++ unitEscape low ++ rest) =
      (readChars? rest).map fun (cs, rest) => (charOfPair high low :: cs, rest) := by
  have hhighbound := isHighSurrogate_iff.mp hhigh
  have hlowbound := isLowSurrogate_iff.mp hlow
  obtain ⟨a, b, c, d, hfirst, hunit⟩ := exists_unitEscape (show high < 0x10000 by omega)
  obtain ⟨e, f, g, h, hsecond, hunit'⟩ := exists_unitEscape (show low < 0x10000 by omega)
  rw [hfirst, hsecond]
  change readChars? ('\\' :: 'u' :: a :: b :: c :: d :: '\\' :: 'u' :: e :: f :: g :: h :: rest) = _
  rw [readChars?, hunit, hunit']
  dsimp only
  rw [hhigh]
  dsimp only
  rw [if_pos hlow]

theorem readChars?_short {e c : Char} (hu : e ≠ 'u') (h : shortEscape? e = some c) :
    readChars? ('\\' :: e :: rest) = (readChars? rest).map fun (cs, rest) => (c :: cs, rest) := by
  rw [readChars?, h]
  · exact fun _ _ _ _ _ _ _ _ _ he => absurd he hu
  · exact fun _ _ _ _ _ he => absurd he hu

theorem readChars?_plain {c : Char} (hquote : c ≠ '"') (hslash : c ≠ '\\') (h : ¬ c < ' ') :
    readChars? (c :: rest) = (readChars? rest).map fun (cs, rest) => (c :: cs, rest) := by
  rw [readChars?, if_neg h]
  · exact hquote
  · exact fun _ _ _ _ _ _ _ _ _ hc => absurd hc hslash
  · exact fun _ _ _ _ _ hc => absurd hc hslash
  · exact fun _ _ hc => absurd hc hslash

-- ---------------------------------------------------------------------------
-- Points
-- ---------------------------------------------------------------------------

theorem toNat_char (c : Char) :
    c.toNat < 0xd800 ∨ 0xdfff < c.toNat ∧ c.toNat < 0x110000 := c.valid

theorem ofCode_code (p : Point) : Point.ofCode p.code = p := by
  cases p with
  | char c =>
    have hvalid : ¬ (c.toNat - Text.firstHalf < 2048 ∧ Text.firstHalf ≤ c.toNat) := by
      have := toNat_char c
      unfold Text.firstHalf
      omega
    rw [Point.code, Point.ofCode, dif_neg hvalid, Char.ofNat_toNat]
  | half n =>
    have hhalf : Text.firstHalf + n - Text.firstHalf < 2048 ∧ Text.firstHalf ≤ Text.firstHalf + n :=
      ⟨by omega, Nat.le_add_right ..⟩
    rw [Point.code, Point.ofCode, dif_pos hhalf]
    simp

/-- A character beyond the first plane has a pair of escapes. -/
theorem charOfPair_code {code : Nat} (h : 0x10000 ≤ code) :
    charOfPair (0xd800 + (code - 0x10000) / 0x400) (0xdc00 + (code - 0x10000) % 0x400) =
      Char.ofNat code := by
  rw [charOfPair]
  exact congrArg Char.ofNat (by omega)

theorem code_lt (p : Point) : p.code < 0x110000 := by
  cases p with
  | char c =>
    have := toNat_char c
    rw [Point.code]
    omega
  | half n =>
    rw [Point.code, Text.firstHalf]
    omega

theorem readChars?_numberedEscape (p : Point)
    (hpair : isHighSurrogate p.code = true → ¬ StartsLow rest) :
    readChars? (numberedEscape p.code ++ rest) =
      (readChars? rest).map fun (cs, rest) => (p.spell ++ cs, rest) := by
  rw [numberedEscape]
  by_cases hplane : p.code < 0x10000
  · rw [if_pos hplane, readChars?_unitEscape hplane hpair, charsOfUnit, ofCode_code]
  · rw [if_neg hplane]
    cases p with
    | half n =>
      rw [Point.code, Text.firstHalf] at hplane
      omega
    | char c =>
      rw [Point.code] at hplane ⊢
      have hmark : c ≠ Text.mark := by
        rintro rfl
        exact hplane (by decide)
      have hvalid := toNat_char c
      rw [readChars?_pair (isHighSurrogate_iff.mpr (by omega)) (isLowSurrogate_iff.mpr (by omega)),
        charOfPair_code (by omega), Char.ofNat_toNat, Point.spell, if_neg hmark]
      rfl

/-- One escape is one point, as long as the next escape does not make a pair of it. -/
theorem readChars?_escaped (p : Point)
    (hpair : isHighSurrogate p.code = true → ¬ StartsLow rest) :
    readChars? (escaped p ++ rest) =
      (readChars? rest).map fun (cs, rest) => (p.spell ++ cs, rest) := by
  unfold escaped
  split
  case h_8 c hquote hslash _ _ _ _ _ =>
    split
    case isTrue hplain =>
      have hmark : c ≠ Text.mark := by
        rintro rfl
        exact absurd hplain.2 (by decide)
      rw [List.singleton_append, readChars?_plain hquote hslash (Char.not_lt.mpr hplain.1),
        Point.spell, if_neg hmark]
      rfl
    case isFalse =>
      exact readChars?_numberedEscape (.char c) hpair
  case h_9 n => exact readChars?_numberedEscape (.half n) hpair
  all_goals exact readChars?_short (by decide) rfl

theorem not_startsLow_unitEscape {unit : Nat} (hunit : unit < 0x10000)
    (h : isLowSurrogate unit ≠ true) : ¬ StartsLow (unitEscape unit ++ rest) := by
  rintro ⟨e, f, g, i, tail, low, heq, hlow, hsecond⟩
  obtain ⟨a, b, c, d, hescape, hcode⟩ := exists_unitEscape hunit
  rw [hescape] at heq
  obtain ⟨rfl, rfl, rfl, rfl, -⟩ := by simpa using heq
  rw [hcode] at hlow
  exact h (Option.some.inj hlow ▸ hsecond)

theorem not_startsLow_escaped (h : isLowSurrogate p.code ≠ true) :
    ¬ StartsLow (escaped p ++ rest) := by
  have hnumbered : ¬ StartsLow (numberedEscape p.code ++ rest) := by
    rw [numberedEscape]
    split
    case isTrue hplane => exact not_startsLow_unitEscape hplane h
    case isFalse hplane =>
      have hvalid := code_lt p
      rw [List.append_assoc]
      refine not_startsLow_unitEscape (by omega) fun hlow => ?_
      have := isLowSurrogate_iff.mp hlow
      omega
  unfold escaped
  split
  case h_8 c _ hslash _ _ _ _ _ =>
    split
    case isTrue =>
      rintro ⟨_, _, _, _, _, _, heq, -⟩
      exact hslash (List.cons.inj heq).1
    case isFalse => exact hnumbered
  case h_9 => exact hnumbered
  all_goals
    rintro ⟨_, _, _, _, _, _, heq, -⟩
    exact absurd (List.cons.inj (List.cons.inj heq).2).1 (by decide)

/-- Two points that are not the two halves of a pair, in this order. -/
def Apart (p q : Point) : Prop :=
  ¬ (isHighSurrogate p.code = true ∧ isLowSurrogate q.code = true)

instance : DecidableRel Apart := fun p q =>
  inferInstanceAs (Decidable (¬ (isHighSurrogate p.code = true ∧ isLowSurrogate q.code = true)))

theorem readChars?_flatMap (h : ps.IsChain Apart) :
    readChars? (ps.flatMap escaped ++ '"' :: rest) = some (spell ps, rest) := by
  induction ps with
  | nil => rfl
  | cons p ps ih =>
    obtain ⟨hhead, htail⟩ := List.isChain_cons.mp h
    rw [List.flatMap_cons, List.append_assoc, readChars?_escaped p, ih htail]
    · rfl
    · intro hhigh
      -- The closing quote is no escape, and the next point is no second half.
      cases ps with
      | nil =>
        rintro ⟨_, _, _, _, _, _, heq, -⟩
        exact absurd (List.cons.inj heq).1 (by decide)
      | cons q qs =>
        rw [List.flatMap_cons, List.append_assoc]
        exact not_startsLow_escaped fun hlow => hhead q rfl ⟨hhigh, hlow⟩

-- ---------------------------------------------------------------------------
-- Texts
-- ---------------------------------------------------------------------------

/-- A text that is kept as its points are spelt, with no two halves in it that make up a pair: as
escapes these could not be told from the character of the pair. -/
structure Exchangeable (s : String) : Prop where
  spelt : spell (points s.toList) = s.toList
  apart : (points s.toList).IsChain Apart

instance (s : String) : Decidable (Exchangeable s) :=
  decidable_of_iff (spell (points s.toList) = s.toList ∧ (points s.toList).IsChain Apart)
    ⟨fun h => ⟨h.1, h.2⟩, fun h => ⟨h.spelt, h.apart⟩⟩

theorem not_isHighSurrogate_char (c : Char) : isHighSurrogate (Point.char c).code ≠ true := by
  rw [ne_eq, isHighSurrogate_iff, Point.code]
  have := toNat_char c
  omega

/-- Every text of characters can be exchanged. -/
theorem exchangeable_kept (s : String) : Exchangeable (Text.kept s) := by
  have hpoints : points (Text.kept s).toList = s.toList.map Point.char := by
    rw [Text.kept, String.toList_ofList, Text.points_spell]
  constructor
  · rw [hpoints, Text.kept, String.toList_ofList]
  · rw [hpoints]
    exact (List.pairwise_map.mpr (List.pairwise_of_forall fun c _ h =>
      not_isHighSurrogate_char c h.1)).isChain

theorem readText_textChars {s : String} (h : Exchangeable s) (rest : List Char) :
    ∃ cs, textChars s ++ rest = '"' :: cs ∧ readText cs = .ok (s, rest) := by
  refine ⟨(points s.toList).flatMap escaped ++ '"' :: rest, ?_, ?_⟩
  · rw [textChars, List.append_assoc]
    rfl
  · rw [readText, readChars?_flatMap h.apart, h.spelt]
    dsimp only
    rw [String.ofList_toList]

end Json

end Bitemporal
