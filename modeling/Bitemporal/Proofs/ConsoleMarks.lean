import Bitemporal.CommandLine.Console

/-!
# Marks that are closed and not open

A console that reads marks refuses a text that closes a mark which is not open. That is all that is
known of it here. `counting` is a console of this kind that can be run.
-/

namespace Bitemporal.CommandLine

-- ---------------------------------------------------------------------------
-- Texts
-- ---------------------------------------------------------------------------

/-- Characters that neither begin a mark nor keep one from being read. -/
def IsPlain (c : Char) : Prop := c ≠ '[' ∧ c ≠ '\\'

/-- Texts that leave no mark open: each mark is closed before the next one opens. -/
inductive Settled : List Char → Prop
  | nil : Settled []
  | char {c : Char} {rest : List Char} (plain : IsPlain c) (settled : Settled rest) :
    Settled (c :: rest)
  | mark {word inner rest : List Char} (letters : ∀ c ∈ word, c.isLower = true)
      (plain : ∀ c ∈ inner, IsPlain c) (settled : Settled rest) :
    Settled ('[' :: (word ++ ']' :: (inner ++ '[' :: '/' :: (word ++ ']' :: rest))))

/-- A mark is closed where no mark is open. -/
def ClosesUnopened (text : String) : Prop :=
  ∃ front word back, Settled front ∧ (∀ c ∈ word, c.isLower = true) ∧
    text.toList = front ++ '[' :: '/' :: (word ++ ']' :: back)

theorem settled_of_plain {text : List Char} (h : ∀ c ∈ text, IsPlain c) : Settled text := by
  induction text with
  | nil => exact .nil
  | cons c rest ih =>
    obtain ⟨hc, hrest⟩ := List.forall_mem_cons.mp h
    exact .char hc (ih hrest)

theorem Settled.append {front rest : List Char} (h : Settled front) (hrest : Settled rest) :
    Settled (front ++ rest) := by
  induction h with
  | nil => exact hrest
  | char plain _ ih => exact .char plain ih
  | @mark word inner _ letters plain _ ih =>
    simpa only [List.cons_append, List.append_assoc] using Settled.mark letters plain ih

theorem ClosesUnopened.append {text : String} (h : ClosesUnopened text) (back : String) :
    ClosesUnopened (text ++ back) := by
  obtain ⟨front, word, after, hfront, hword, htext⟩ := h
  exact ⟨front, word, after ++ back.toList, hfront, hword, by simp [htext]⟩

theorem ClosesUnopened.prepend {front text : String} (h : ClosesUnopened text)
    (hfront : Settled front.toList) : ClosesUnopened (front ++ text) := by
  obtain ⟨before, word, after, hbefore, hword, htext⟩ := h
  exact ⟨front.toList ++ before, word, after, hfront.append hbefore, hword, by simp [htext]⟩

theorem ClosesUnopened.mem_bracket {text : String} (h : ClosesUnopened text) :
    '[' ∈ text.toList := by
  obtain ⟨front, word, back, -, -, htext⟩ := h
  simp [htext]

/-- The line that reports a message closes its own mark before the message begins. -/
theorem ClosesUnopened.failureLine {message : String} (h : ClosesUnopened message) :
    ClosesUnopened (Printed.failureLine message) := by
  refine h.prepend ?_
  have hheading : "[red]Error:[/red] ".toList =
      '[' :: (['r', 'e', 'd'] ++ ']' :: (['E', 'r', 'r', 'o', 'r', ':'] ++ '[' :: '/' ::
        (['r', 'e', 'd'] ++ ']' :: [' ']))) := rfl
  rw [hheading]
  exact .mark (List.all_eq_true.mp (by decide)) (by simp [IsPlain])
    (settled_of_plain (by simp [IsPlain]))

-- ---------------------------------------------------------------------------
-- Consoles
-- ---------------------------------------------------------------------------

namespace Console

/-- The console refuses whatever closes a mark that is not open. -/
def ReadsMarks (console : Console) : Prop :=
  ∀ printed : Printed, (∃ text ∈ printed.marked, ClosesUnopened text) →
    console.refusal? printed = some .markNotOpen

/-- More marks are closed than are open, with so many open in front. -/
def overcloses : Nat → List Char → Bool
  | _, [] => false
  | 0, '[' :: '/' :: _ => true
  | opened + 1, '[' :: '/' :: rest => overcloses opened rest
  | opened, '[' :: rest => overcloses (opened + 1) rest
  | opened, _ :: rest => overcloses opened rest

/-- The console that counts marks and does not look at their words. -/
def counting : Console where
  refusal? printed :=
    if printed.marked.any fun text => overcloses 0 text.toList then some .markNotOpen else none

theorem overcloses_plain {c : Char} (h : c ≠ '[') (opened : Nat) (rest : List Char) :
    overcloses opened (c :: rest) = overcloses opened rest := by
  simp [overcloses, h]

theorem overcloses_append {plain : List Char} (h : '[' ∉ plain) (opened : Nat) (rest : List Char) :
    overcloses opened (plain ++ rest) = overcloses opened rest := by
  induction plain with
  | nil => rfl
  | cons c plain ih =>
    rw [List.mem_cons, not_or] at h
    rw [List.cons_append, overcloses_plain (Ne.symm h.1), ih h.2]

theorem not_mem_of_letters {c : Char} {word : List Char} (h : ∀ c ∈ word, c.isLower = true)
    (hc : c.isLower = false) : c ∉ word := by
  intro hmem
  rw [h c hmem] at hc
  cases hc

/-- An opening mark, whose word does not begin with a slash. -/
theorem overcloses_open {word : List Char} (h : ∀ c ∈ word, c.isLower = true) (opened : Nat)
    (rest : List Char) : overcloses opened ('[' :: (word ++ ']' :: rest)) =
      overcloses (opened + 1) rest := by
  have hskip : overcloses (opened + 1) (word ++ ']' :: rest) = overcloses (opened + 1) rest := by
    rw [overcloses_append (not_mem_of_letters h (by decide)), overcloses_plain (by decide)]
  rw [← hskip]
  cases word with
  | nil => simp [overcloses]
  | cons c word =>
    have hslash : '/' ∉ c :: word := not_mem_of_letters h (by decide)
    rw [List.mem_cons, not_or] at hslash
    simp [overcloses, Ne.symm hslash.1]

theorem overcloses_settled {front : List Char} (h : Settled front) (rest : List Char) :
    overcloses 0 (front ++ rest) = overcloses 0 rest := by
  induction h with
  | nil => rfl
  | char plain _ ih => rw [List.cons_append, overcloses_plain plain.1, ih]
  | @mark word inner tail letters plain _ ih =>
    have hinner : '[' ∉ inner := fun hmem => (plain _ hmem).1 rfl
    calc overcloses 0
          ('[' :: (word ++ ']' :: (inner ++ '[' :: '/' :: (word ++ ']' :: tail))) ++ rest)
      _ = overcloses 0 ('[' :: (word ++ ']' ::
            (inner ++ '[' :: '/' :: (word ++ ']' :: (tail ++ rest))))) := by simp
      _ = overcloses 1 (inner ++ '[' :: '/' :: (word ++ ']' :: (tail ++ rest))) :=
        overcloses_open letters 0 _
      _ = overcloses 0 (word ++ ']' :: (tail ++ rest)) := overcloses_append hinner 1 _
      _ = overcloses 0 (tail ++ rest) := by
        rw [overcloses_append (not_mem_of_letters letters (by decide)),
          overcloses_plain (by decide)]
      _ = overcloses 0 rest := ih

theorem readsMarks_counting : counting.ReadsMarks := by
  rintro printed ⟨text, htext, front, word, back, hfront, -, hsplit⟩
  have hover : overcloses 0 text.toList = true := by
    rw [hsplit, overcloses_settled hfront]
    rfl
  exact if_pos (List.any_eq_true.mpr ⟨text, htext, hover⟩)

end Console

end Bitemporal.CommandLine
