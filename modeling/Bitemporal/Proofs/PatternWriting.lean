import Mathlib.Data.List.Basic
import Bitemporal.DatePattern.Writing
import Bitemporal.Proofs.NumeralLaws

/-!
# What a pattern writes

The text of a pattern is written piece by piece: characters stand for themselves, and a letter for
a quantity without options is the quantity's numeral at its own width. A text that is short enough
for the smallest room is written whole.
-/

namespace Bitemporal.DatePattern

open Numeral (padded natDigits)

variable {t : DateTime} {cs rest : List Char} {c letter : Char}

/-- All that the pieces of a pattern hold, whether or not there is room for it. -/
def written (t : DateTime) (cs : List Char) : List Char := (pieces t cs).flatMap Piece.chars

theorem written_nil (t : DateTime) : written t [] = [] := by
  simp [written, pieces]

theorem written_char (hc : c ≠ '%') : written t (c :: rest) = c :: written t rest := by
  have hpieces : pieces t (c :: rest) = ⟨' ', 0, [c]⟩ :: pieces t rest := by
    rw [pieces]
    rintro rfl
    exact hc rfl
  simp [written, hpieces, Piece.chars]

theorem written_append (h : ∀ c ∈ cs, c ≠ '%') :
    written t (cs ++ rest) = cs ++ written t rest := by
  induction cs with
  | nil => rfl
  | cons c cs ih =>
    obtain ⟨hc, hcs⟩ := List.forall_mem_cons.mp h
    simp [written_char hc, ih hcs]

theorem chars_number {places n : Nat} (h : n < 10 ^ (places + 1)) :
    (Options.number {} ⟨places + 1, false, n⟩).chars = padded (places + 1) n := by
  rw [← Numeral.zeros_append_natDigits h]
  simp [Options.number, Piece.chars]

theorem chars_number_long {places n : Nat} (h : places ≤ (natDigits n).length) :
    (Options.number {} ⟨places, false, n⟩).chars = natDigits n := by
  simp [Options.number, Piece.chars, Nat.sub_eq_zero_of_le h]

/-- A letter that stands directly behind the percent sign has no options. -/
theorem written_quantity {q : Quantity} (hq : quantity? t letter = some q)
    (hletter : readOptions (letter :: rest) = ({}, letter :: rest)) :
    written t ('%' :: letter :: rest) = (Options.number {} q).chars ++ written t rest := by
  have hpieces : ∃ source, pieces t ('%' :: letter :: rest) =
      directive t {} letter source ++ pieces t rest := by
    rw [pieces]
    split
    · simp_all
    · rename_i heq
      rw [hletter] at heq
      cases heq
      exact ⟨_, rfl⟩
  obtain ⟨source, hsource⟩ := hpieces
  simp [written, hsource, directive, refuses, hq]

theorem written_padded {places n : Nat} (hq : quantity? t letter = some ⟨places + 1, false, n⟩)
    (hletter : readOptions (letter :: rest) = ({}, letter :: rest)) (h : n < 10 ^ (places + 1)) :
    written t ('%' :: letter :: rest) = padded (places + 1) n ++ written t rest := by
  rw [written_quantity hq hletter, chars_number h]

theorem length_flatMap_chars (pieces : List Piece) :
    (pieces.flatMap Piece.chars).length = (pieces.map Piece.length).foldr (· + ·) 0 := by
  induction pieces with
  | nil => rfl
  | cons piece rest ih => simp [Piece.chars, Piece.length, ih, Nat.add_assoc]

theorem le_room (least : Nat) : 1024 ≤ room least := by
  unfold room
  split
  · exact Nat.le_refl _
  · exact Nat.le_mul_of_pos_right _ (Nat.pow_pos (by decide))

/-- There is always room for a short text. -/
theorem write_of_length_lt {pattern : List Char}
    (h : (written t (replaceFixed t (upToNull pattern))).length < 1024) :
    write t pattern = written t (replaceFixed t (upToNull pattern)) := by
  rw [written, length_flatMap_chars] at h
  exact if_pos (Nat.lt_of_lt_of_le h (le_room _))

end Bitemporal.DatePattern
