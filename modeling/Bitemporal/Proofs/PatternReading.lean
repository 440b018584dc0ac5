import Mathlib.Data.List.Basic
import Bitemporal.DatePattern.Reading
import Bitemporal.Proofs.NumeralLaws

/-!
# How a pattern takes a text apart

A step of a pattern takes a text off the front if its preferred way of matching uses up just that
text. Steps that take the pieces of a text one after another make up the first match of the whole,
so no other split is tried: `firstMatch?_cons`. Parts of a date-time take their numerals written
out to full width.
-/

namespace Bitemporal.DatePattern

open Numeral (digitChar Decimal ofDigits padded)

variable {item : Item} {items : List Item} {d : Directive} {form : List CharClass}
  {front rest left : List Char} {captured more : List Capture}

-- ---------------------------------------------------------------------------
-- Steps
-- ---------------------------------------------------------------------------

/-- A step of a pattern takes a text off the front of every longer one. -/
def Item.Takes (item : Item) (front : List Char) (captured : List Capture) (rest : List Char) :
    Prop :=
  (item.matches (front ++ rest)).head? = some (captured, rest)

theorem firstMatch?_cons (h : item.Takes front captured rest)
    (hrest : firstMatch? items rest = some (more, left)) :
    firstMatch? (item :: items) (front ++ rest) = some (captured ++ more, left) := by
  obtain ⟨others, hmatches⟩ := List.head?_eq_some_iff.mp h
  simp [firstMatch?, hmatches, hrest]

theorem sameLetter_self (c : Char) : Text.sameLetter c c = true := by
  simp [Text.sameLetter]

theorem takes_literal (c : Char) (rest : List Char) : (Item.literal c).Takes [c] [] rest := by
  simp [Item.Takes, Item.matches, sameLetter_self]

/-- One blank is all that a run of blanks takes where no other blank follows. -/
theorem takes_blanks {c : Char} (hc : Text.isBlank c = true)
    (h : ∀ next ∈ rest.head?, Text.isBlank next = false) : Item.blanks.Takes [c] [] rest := by
  have hafter : afterBlanks rest = [] := by
    cases rest with
    | nil => rfl
    | cons next rest => simp [afterBlanks, h next rfl]
  simp [Item.Takes, Item.matches, afterBlanks, hc, hafter]

-- ---------------------------------------------------------------------------
-- Parts
-- ---------------------------------------------------------------------------

/-- A form no longer than a text looks at nothing behind it. -/
theorem splitForm?_append (h : form.length ≤ front.length) :
    splitForm? form (front ++ rest) =
      (splitForm? form front).map fun split => (split.1, split.2 ++ rest) := by
  induction form generalizing front with
  | nil => simp [splitForm?]
  | cons cls form ih =>
    cases front with
    | nil => simp at h
    | cons c front =>
      have hform : form.length ≤ front.length := by simpa using h
      by_cases hc : cls.admits c = true <;> simp [splitForm?, hc, ih hform, Function.comp_def]

theorem splitForm?_of_length_lt (h : front.length < form.length) :
    splitForm? form front = none := by
  induction form generalizing front with
  | nil => simp at h
  | cons cls form ih =>
    cases front with
    | nil => rfl
    | cons c front =>
      have hform : front.length < form.length := by simpa using h
      simp [splitForm?, ih hform]

theorem splitForm?_of_forall₂ (h : List.Forall₂ (fun cls c => cls.admits c = true) form front) :
    splitForm? form front = some (front, []) := by
  induction h with
  | nil => rfl
  | cons hc _ ih => simp [splitForm?, hc, ih]

/-- A part prefers to take a text as a whole. -/
def Directive.Prefers (d : Directive) (front : List Char) : Prop :=
  ((Item.part d).matches front).head? = some ([(d, front)], [])

instance : Decidable (d.Prefers front) := by
  unfold Directive.Prefers
  infer_instance

theorem takes_part (h : d.Prefers front) (hforms : ∀ form ∈ d.forms, form.length ≤ front.length) :
    (Item.part d).Takes front [(d, front)] rest := by
  have hmatches : (Item.part d).matches (front ++ rest) =
      ((Item.part d).matches front).map fun way => (way.1, way.2 ++ rest) := by
    simp only [Item.matches, List.map_filterMap]
    refine List.filterMap_congr fun form hform => ?_
    simp [splitForm?_append (hforms form hform), Function.comp_def]
  unfold Directive.Prefers at h
  simp [Item.Takes, hmatches, h]

theorem prefers_of_form {forms : List (List CharClass)} (hforms : d.forms = form :: forms)
    (h : List.Forall₂ (fun cls c => cls.admits c = true) form front) : d.Prefers front := by
  simp [Directive.Prefers, Item.matches, hforms, splitForm?_of_forall₂ h]

-- ---------------------------------------------------------------------------
-- Characters that no step takes
-- ---------------------------------------------------------------------------

/-- No text that the step takes holds the character. -/
def Item.avoids (c : Char) : Item → Bool
  | literal l => !Text.sameLetter l c
  | blanks => !Text.isBlank c
  | part d => d.forms.all fun form => form.all fun cls => !cls.admits c

variable {c : Char} {cs : List Char}

theorem mem_rest_of_splitForm? (h : ∀ cls ∈ form, cls.admits c = false)
    (hsplit : splitForm? form cs = some (front, rest)) (hc : c ∈ cs) : c ∈ rest := by
  induction form generalizing cs front with
  | nil =>
    cases hsplit
    exact hc
  | cons cls form ih =>
    obtain ⟨hcls, hform⟩ := List.forall_mem_cons.mp h
    cases cs with
    | nil => cases hsplit
    | cons a cs =>
      cases ha : cls.admits a with
      | false => simp [splitForm?, ha] at hsplit
      | true =>
        have hne : c ≠ a := fun heq => by simp [heq, ha] at hcls
        rw [splitForm?, if_pos ha] at hsplit
        obtain ⟨⟨_, _⟩, hsplit', heq⟩ := Option.map_eq_some_iff.mp hsplit
        cases heq
        exact ih hform hsplit' (List.mem_of_ne_of_mem hne hc)

theorem mem_of_mem_afterBlanks (h : Text.isBlank c = false) (hrest : rest ∈ afterBlanks cs)
    (hc : c ∈ cs) : c ∈ rest := by
  induction cs with
  | nil => simp [afterBlanks] at hrest
  | cons a cs ih =>
    cases ha : Text.isBlank a with
    | false => simp [afterBlanks, ha] at hrest
    | true =>
      have hcs : c ∈ cs := List.mem_of_ne_of_mem (fun heq => by simp [heq, ha] at h) hc
      rw [afterBlanks, if_pos ha, List.mem_append, List.mem_singleton] at hrest
      rcases hrest with hlater | rfl
      · exact ih hlater hcs
      · exact hcs

/-- A step leaves a character that it avoids to the steps behind it. -/
theorem mem_rest_of_matches (h : item.avoids c = true)
    (hmatch : (captured, rest) ∈ item.matches cs) (hc : c ∈ cs) : c ∈ rest := by
  cases item with
  | literal l =>
    cases cs with
    | nil => cases hc
    | cons a cs =>
      rw [Item.matches] at hmatch
      split at hmatch
      · next ha =>
        cases List.mem_singleton.mp hmatch
        exact List.mem_of_ne_of_mem (fun heq => by simp [Item.avoids, heq, ha] at h) hc
      · cases hmatch
  | blanks =>
    obtain ⟨_, hafter, heq⟩ := List.mem_map.mp hmatch
    cases heq
    exact mem_of_mem_afterBlanks (by simpa [Item.avoids] using h) hafter hc
  | part d =>
    obtain ⟨form, hform, hsplit⟩ := List.mem_filterMap.mp hmatch
    obtain ⟨⟨_, _⟩, hsplit', heq⟩ := Option.map_eq_some_iff.mp hsplit
    cases heq
    have hforms : ∀ form ∈ d.forms, ∀ cls ∈ form, cls.admits c = false := by
      simpa [Item.avoids] using h
    exact mem_rest_of_splitForm? (hforms form hform) hsplit' hc

theorem mem_left_of_firstMatch? (h : ∀ item ∈ items, item.avoids c = true)
    (hmatch : firstMatch? items cs = some (more, left)) (hc : c ∈ cs) : c ∈ left := by
  induction items generalizing cs more left with
  | nil =>
    cases hmatch
    exact hc
  | cons item items ih =>
    obtain ⟨hitem, hitems⟩ := List.forall_mem_cons.mp h
    obtain ⟨⟨_, rest⟩, hway, hfirst⟩ := List.exists_of_findSome?_eq_some hmatch
    obtain ⟨⟨_, _⟩, hlater, heq⟩ := Option.map_eq_some_iff.mp hfirst
    cases heq
    exact ih hitems hlater (mem_rest_of_matches hitem hway hc)

/-- A text cannot be read if it holds a character that all steps avoid. -/
theorem read_of_avoids {pattern : List Char} (hitems : items? pattern = some items)
    (hdistinct : isDistinct (items.filterMap Item.directive?) = true)
    (h : ∀ item ∈ items, item.avoids c = true) (hc : c ∈ cs) :
    read pattern cs = .error .mismatch := by
  simp only [read, hitems, hdistinct, Bool.not_true, Bool.false_eq_true, if_false]
  split
  · next hmatch => cases mem_left_of_firstMatch? h hmatch hc
  · rfl

-- ---------------------------------------------------------------------------
-- Numerals
-- ---------------------------------------------------------------------------

theorem number_padded (width : Nat) {n : Nat} (h : n < 10 ^ width) : number (padded width n) = n := by
  have hdecimal := Numeral.decimal_fixedDigits width n
  have hvalues : (Numeral.fixedDigits width n).filterMap (Text.digitValue? ∘ digitChar) =
      Numeral.fixedDigits width n := by
    refine (List.filterMap_congr fun d hd => ?_).trans List.filterMap_some
    exact Numeral.digitValue?_digitChar d (hdecimal d hd)
  rw [number, Numeral.padded_eq, List.filterMap_map, hvalues, Numeral.ofDigits_fixedDigits h]

theorem forall₂_padded {cls : CharClass} (h : ∀ d < 10, cls.admits (digitChar d) = true)
    (width n : Nat) :
    List.Forall₂ (fun cls c => CharClass.admits cls c = true) (List.replicate width cls)
      (padded width n) := by
  have hdecimal := Numeral.decimal_fixedDigits width n
  have hlength := Numeral.length_fixedDigits width n
  rw [Numeral.padded_eq]
  generalize Numeral.fixedDigits width n = ds at hdecimal hlength
  subst hlength
  induction ds with
  | nil => exact .nil
  | cons d ds ih =>
    obtain ⟨hd, hds⟩ := List.forall_mem_cons.mp hdecimal
    exact .cons (h d hd) (ih hds)

theorem takes_padded {width n : Nat} (hforms : ∀ form ∈ d.forms, form.length ≤ width)
    (h : d.Prefers (padded width n)) (rest : List Char) :
    (Item.part d).Takes (padded width n) [(d, padded width n)] rest :=
  takes_part h (by simpa using hforms)

theorem admits_digit : ∀ d < 10, CharClass.digit.admits (digitChar d) = true := by decide

theorem admits_ascii : ∀ d < 10, (CharClass.between '0' '9').admits (digitChar d) = true := by
  decide

theorem prefers_year (n : Nat) : Directive.year.Prefers (padded 4 n) :=
  prefers_of_form rfl (forall₂_padded admits_digit 4 n)

theorem prefers_microsecond (n : Nat) : Directive.microsecond.Prefers (padded 6 n) :=
  prefers_of_form rfl (forall₂_padded admits_ascii 6 n)

theorem prefers_month : ∀ n ≤ 12, 1 ≤ n → Directive.month.Prefers (padded 2 n) := by decide

theorem prefers_day : ∀ n ≤ 31, 1 ≤ n → Directive.day.Prefers (padded 2 n) := by decide

theorem prefers_hour : ∀ n < 24, Directive.hour24.Prefers (padded 2 n) := by decide

theorem prefers_minute : ∀ n < 60, Directive.minute.Prefers (padded 2 n) := by decide

theorem prefers_second : ∀ n < 60, Directive.second.Prefers (padded 2 n) := by decide

-- ---------------------------------------------------------------------------
-- Offsets
-- ---------------------------------------------------------------------------

/-- Forms longer than a text do not count. -/
theorem matches_eq_filter (d : Directive) (front : List Char) :
    (Item.part d).matches front =
      (d.forms.filter fun form => form.length ≤ front.length).filterMap fun form =>
        (splitForm? form front).map fun split => ([(d, split.1)], split.2) := by
  rw [List.filterMap_filter]
  refine List.filterMap_congr fun form _ => ?_
  split
  · rfl
  · rename_i hlong
    rw [splitForm?_of_length_lt (by simpa using hlong)]
    rfl

/-- The forms of an offset of hours and minutes, and the letter. -/
theorem short_offsetForms :
    (Directive.offset.forms.filter fun form => form.length ≤ 5) =
      [[.only '+', .digit, .digit, sixty, .digit], [.only '-', .digit, .digit, sixty, .digit],
        [.only 'Z']] := rfl

/-- A sign with hours and minutes, as it stands at the end of a text. -/
theorem takes_offset {sign : Char} (hsign : sign = '+' ∨ sign = '-') {minutes : Nat}
    (h : minutes < 60) (hours : Nat) :
    (Item.part .offset).Takes (sign :: (padded 2 hours ++ padded 2 minutes))
      [(.offset, sign :: (padded 2 hours ++ padded 2 minutes))] [] := by
  have hsixty : ∀ d < 6, sixty.admits (digitChar d) = true := by decide
  have hclock : List.Forall₂ (fun cls c => CharClass.admits cls c = true)
      [.digit, .digit, sixty, .digit] (padded 2 hours ++ padded 2 minutes) :=
    .cons (admits_digit _ (Nat.mod_lt _ (by decide))) <|
      .cons (admits_digit _ (Nat.mod_lt _ (by decide))) <| .cons (hsixty _ (by omega)) <|
      .cons (admits_digit _ (Nat.mod_lt _ (by decide))) .nil
  have hlength : (sign :: (padded 2 hours ++ padded 2 minutes)).length = 5 := by simp
  rw [Item.Takes, List.append_nil, matches_eq_filter, hlength, short_offsetForms]
  rcases hsign with rfl | rfl
  · have hplus := splitForm?_of_forall₂ (.cons (show (CharClass.only '+').admits '+' = true from rfl)
      hclock)
    simp [hplus]
  · have hplus : splitForm? [.only '+', .digit, .digit, sixty, .digit]
        ('-' :: (padded 2 hours ++ padded 2 minutes)) = none := rfl
    have hminus := splitForm?_of_forall₂ (.cons (show (CharClass.only '-').admits '-' = true from rfl)
      hclock)
    simp [hplus, hminus]

theorem offsetMicros?_clock (sign : Char) {hours minutes : Nat} (hhours : hours < 100)
    (hminutes : minutes < 100) :
    offsetMicros? (sign :: (padded 2 hours ++ padded 2 minutes)) =
      some (if sign = '-' then -(((hours * 60 + minutes) * 60000000 : Nat) : Int)
        else ((hours * 60 + minutes) * 60000000 : Nat)) := by
  have hcolon : (padded 2 minutes).head? ≠ some ':' := by
    have hdigit : ∀ d < 10, digitChar d ≠ ':' := by decide
    intro h
    exact hdigit _ (Nat.mod_lt _ (by decide)) (Option.some.inj h)
  have htake (rest : List Char) : (padded 2 hours ++ rest).take 2 = padded 2 hours :=
    List.take_left' (Numeral.length_padded 2 hours)
  have hdrop (rest : List Char) : (padded 2 hours ++ rest).drop 2 = rest :=
    List.drop_left' (Numeral.length_padded 2 hours)
  have hall : (padded 2 minutes).take 2 = padded 2 minutes := rfl
  have hnone : (padded 2 minutes).drop 2 = [] := rfl
  rw [offsetMicros?]
  · simp [htake, hdrop, hall, hnone, hcolon, offsetTail?, number_padded 2 hhours,
      number_padded 2 hminutes]
  · simp [padded]

end Bitemporal.DatePattern
