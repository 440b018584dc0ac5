/-!
# Halves of surrogate pairs

A text may hold half of a surrogate pair, which is no character. It is kept as a mark and a
stand-in behind the mark; where the mark is meant as a character of its own, it is kept twice. So a
text spells exactly one sequence of points (`points_spell`). The mark is the next character after
the halves, and every stand-in lies below the mark; so texts are in the order of their points.
-/

namespace Bitemporal.Text

def mark : Char := '\ue000'

/-- The first stand-in. The one of a half lies as far behind it as the half behind the first half. -/
def firstStandIn : Nat := 0x3400

def firstHalf : Nat := 0xd800

inductive Point where
  | char (c : Char)
  | half (n : Fin 2048)
  deriving DecidableEq

namespace Point

def code : Point → Nat
  | char c => c.toNat
  | half n => firstHalf + n

def ofCode (code : Nat) : Point :=
  if h : code - firstHalf < 2048 ∧ firstHalf ≤ code then half ⟨code - firstHalf, h.1⟩
  else char (Char.ofNat code)

def isHalf : Point → Bool
  | char _ => false
  | half _ => true

def spell : Point → List Char
  | char c => if c = mark then [mark, mark] else [c]
  | half n => [mark, Char.ofNat (firstStandIn + n)]

end Point

def behindMark (c : Char) : Point :=
  if h : c.toNat - firstStandIn < 2048 then .half ⟨c.toNat - firstStandIn, h⟩ else .char mark

def points : List Char → List Point
  | [] => []
  | [c] => [.char c]
  | c :: d :: rest => if c = mark then behindMark d :: points rest else .char c :: points (d :: rest)

def spell (ps : List Point) : List Char := ps.flatMap Point.spell

theorem behindMark_mark : behindMark mark = .char mark := by decide

theorem behindMark_standIn : ∀ n : Fin 2048,
    behindMark (Char.ofNat (firstStandIn + n)) = .half n := by
  intro n
  have hv : (firstStandIn + n.val).isValidChar := Or.inl (by have := n.2; simp [firstStandIn]; omega)
  have hn : (Char.ofNat (firstStandIn + n.val)).toNat = firstStandIn + n.val := by
    rw [Char.ofNat, dif_pos hv]
    rfl
  simp [behindMark, hn]

/-- What points are kept as spells just those points. -/
theorem points_spell (ps : List Point) : points (spell ps) = ps := by
  induction ps with
  | nil => rfl
  | cons p rest ih =>
    have cons (q : List Char) : spell (p :: rest) = p.spell ++ spell rest := rfl
    cases p with
    | char c =>
      by_cases h : c = mark
      · subst h
        simp [cons [], Point.spell, points, behindMark_mark, ih]
      · rw [cons []]
        cases hs : spell rest with
        | nil => simp_all [Point.spell, points]
        | cons d ds => simp_all [Point.spell, points]
    | half n => simp [cons [], Point.spell, points, behindMark_standIn, ih]

def hasHalf (s : String) : Bool := (points s.toList).any Point.isHalf

/-- A text of characters as it is kept. -/
def kept (s : String) : String := String.ofList (spell (s.toList.map Point.char))

/-- A text with each half as the three replacement characters of its three bytes. -/
def replaced (s : String) : String :=
  String.ofList ((points s.toList).flatMap fun
    | .char c => [c]
    | .half _ => List.replicate 3 '\ufffd')

def withoutHalves (s : String) : String := kept (replaced s)

end Bitemporal.Text
