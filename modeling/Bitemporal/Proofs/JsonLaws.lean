import Bitemporal.Proofs.DecimalText
import Bitemporal.Proofs.MapLaws
import Bitemporal.Proofs.TextEscapes

/-!
# JSON reads back

Reading takes back what writing a single value put in front of a separator. An object of such values
is read back member by member.
-/

namespace Bitemporal.Json

open Numeral (digitChar Decimal)
open Binary64 (Spelling Representable)

variable {ds : List Nat} {rest : List Char} {v : Value}

-- ---------------------------------------------------------------------------
-- Parts of numbers
-- ---------------------------------------------------------------------------

theorem spanDigits_map (hds : Decimal ds) (hrest : ∀ c ∈ rest.head?, c.isDigit = false) :
    spanDigits (ds.map digitChar ++ rest) = (ds.map digitChar, rest) := by
  have hall : ∀ c ∈ ds.map digitChar, c.isDigit = true :=
    List.forall_mem_map.mpr fun d hd => Numeral.isDigit_digitChar d (hds d hd)
  have hnone : rest.takeWhile Char.isDigit = [] ∧ rest.dropWhile Char.isDigit = rest := by
    cases rest with
    | nil => exact ⟨rfl, rfl⟩
    | cons c rest =>
      have hc := hrest c rfl
      exact ⟨List.takeWhile_cons_of_neg (by simp [hc]), List.dropWhile_cons_of_neg (by simp [hc])⟩
  rw [spanDigits, List.takeWhile_append_of_pos hall, List.dropWhile_append_of_pos hall, hnone.1,
    hnone.2, List.append_nil]

theorem wholePart?_map (hds : Decimal ds) (hleading : ds = [0] ∨ ∃ d es, ds = d :: es ∧ d ≠ 0)
    (hrest : ∀ c ∈ rest.head?, c.isDigit = false) :
    wholePart? (ds.map digitChar ++ rest) = some (ds.map digitChar, rest) := by
  rcases hleading with rfl | ⟨d, es, rfl, hd⟩
  · rfl
  · have hdigit : ∀ d < 10, d ≠ 0 → digitChar d ≠ '0' := by decide
    have hlt := hds d List.mem_cons_self
    have hspan := spanDigits_map hds hrest
    rw [List.map_cons, List.cons_append] at hspan ⊢
    rw [wholePart?, if_pos (Numeral.isDigit_digitChar d hlt), hspan]
    exact hdigit d hlt hd

theorem fractionPart_fractionChars (hds : Decimal ds) (hdigit : ∀ c ∈ rest.head?, c.isDigit = false)
    (hrest : ∀ c ∈ rest.head?, c ≠ '.') :
    fractionPart (Spelling.fractionChars ds ++ rest) = (Spelling.fractionChars ds, rest) := by
  cases ds with
  | nil =>
    change fractionPart rest = ([], rest)
    unfold fractionPart
    split
    case h_1 tail => exact absurd rfl (hrest '.' rfl)
    case h_2 => rfl
  | cons d ds =>
    change fractionPart ('.' :: ((d :: ds).map digitChar ++ rest)) = _
    rw [fractionPart, spanDigits_map hds hdigit]
    rfl

theorem exponentPart_exponentChars (e : Option Int) (hdigit : ∀ c ∈ rest.head?, c.isDigit = false)
    (hrest : ∀ c ∈ rest.head?, ¬ (c = 'e' ∨ c = 'E')) :
    exponentPart (Spelling.exponentChars e ++ rest) = (Spelling.exponentChars e, rest) := by
  cases e with
  | none =>
    change exponentPart rest = ([], rest)
    unfold exponentPart
    split
    case h_1 c tail => rw [if_neg (hrest c rfl)]
    case h_2 => rfl
  | some e =>
    obtain ⟨d, ds, hds, -, hchars⟩ := Binary64.exists_exponentDigits e
    have hspan := spanDigits_map hds hdigit
    rw [Spelling.exponentChars, hchars]
    by_cases hnegative : e < 0
    · rw [if_pos hnegative]
      change exponentPart ('e' :: '-' :: ((d :: ds).map digitChar ++ rest)) = _
      rw [exponentPart, if_pos (.inl rfl), hspan]
      rfl
    · rw [if_neg hnegative]
      change exponentPart ('e' :: '+' :: ((d :: ds).map digitChar ++ rest)) = _
      rw [exponentPart, if_pos (.inl rfl), hspan]
      rfl

-- ---------------------------------------------------------------------------
-- Numbers
-- ---------------------------------------------------------------------------

/-- What may follow a member of an object, or nothing. -/
def Closing (rest : List Char) : Prop := ∀ c ∈ rest.head?, c = ',' ∨ c = '\x7d'

theorem Closing.head (h : Closing rest) {P : Char → Prop} (hcomma : P ',') (hbrace : P '\x7d') :
    ∀ c ∈ rest.head?, P c := by
  intro c hc
  rcases h c hc with rfl | rfl
  · exact hcomma
  · exact hbrace

theorem head_exponentChars (e : Option Int) {P : Char → Prop} (he : P 'e')
    (hrest : ∀ c ∈ rest.head?, P c) : ∀ c ∈ (Spelling.exponentChars e ++ rest).head?, P c := by
  cases e with
  | none => exact hrest
  | some e =>
    rintro c ⟨rfl⟩
    exact he

theorem head_fractionChars (ds : List Nat) {P : Char → Prop} (hpoint : P '.')
    (hrest : ∀ c ∈ rest.head?, P c) : ∀ c ∈ (Spelling.fractionChars ds ++ rest).head?, P c := by
  cases ds with
  | nil => exact hrest
  | cons d ds =>
    rintro c ⟨rfl⟩
    exact hpoint

/-- A numeral without fraction and exponent is an integer. -/
theorem readNumber_natDigits (negative : Bool) {n : Nat}
    (hn : (Numeral.natDigits n).length ≤ Numeral.maxDigits) (h : Closing rest) :
    readNumber negative (Numeral.natDigits n ++ rest) =
      .ok (.int (if negative then -n else n), rest) := by
  have hleading : Numeral.digits n = [0] ∨ ∃ d es, Numeral.digits n = d :: es ∧ d ≠ 0 := by
    by_cases hzero : n = 0
    · exact .inl (by rw [hzero]; rfl)
    · exact .inr (Numeral.head_digits hzero)
  have hdigit : ∀ c ∈ rest.head?, c.isDigit = false := h.head rfl rfl
  have hwhole := wholePart?_map (Numeral.decimal_digits n) hleading hdigit
  have hfraction := fractionPart_fractionChars (show Decimal [] by decide) hdigit
    (h.head (by decide) (by decide))
  have hexponent := exponentPart_exponentChars none hdigit (h.head (by decide) (by decide))
  rw [← Numeral.natDigits_eq] at hwhole
  rw [readNumber, hwhole]
  dsimp only
  change fractionPart rest = ([], rest) at hfraction
  change exponentPart rest = ([], rest) at hexponent
  rw [hfraction]
  dsimp only
  rw [hexponent]
  rw [if_pos (by rfl), Numeral.readNat?_natDigits hn]

/-- A spelling is a number that is not an integer. -/
theorem readNumber_chars (negative : Bool) (s : Spelling) (h : Closing rest) {x : Binary64}
    (hread : Binary64.readMagnitude? negative s.chars = some x) :
    readNumber negative (s.chars ++ rest) = .ok (.float x, rest) := by
  have hdigit : ∀ c ∈ rest.head?, c.isDigit = false := h.head rfl rfl
  have hdigit' := head_exponentChars s.exponent (P := fun c => c.isDigit = false) rfl hdigit
  have hwhole := wholePart?_map s.decimal_whole s.leading
    (head_fractionChars s.fraction (P := fun c => c.isDigit = false) rfl hdigit')
  have hfraction := fractionPart_fractionChars s.decimal_fraction hdigit'
    (head_exponentChars s.exponent (P := (· ≠ '.')) (by decide) (h.head (by decide) (by decide)))
  have hexponent := exponentPart_exponentChars s.exponent hdigit (h.head (by decide) (by decide))
  have hparts : ((Spelling.fractionChars s.fraction).isEmpty &&
      (Spelling.exponentChars s.exponent).isEmpty) = false := by
    rcases s.distinct with hne | hsome
    · rw [Binary64.fractionChars_of_ne_nil hne]
      rfl
    · obtain ⟨e, he⟩ := Option.isSome_iff_exists.mp hsome
      rw [he, Bool.and_eq_false_iff]
      exact .inr rfl
  rw [Spelling.chars, List.append_assoc, List.append_assoc, readNumber, hwhole]
  dsimp only
  rw [hfraction]
  dsimp only
  rw [hexponent]
  dsimp only
  rw [hparts, if_neg Bool.false_ne_true, List.append_assoc]
  rw [Spelling.chars] at hread
  rw [hread]

-- ---------------------------------------------------------------------------
-- Words
-- ---------------------------------------------------------------------------

/-- Whether a text starts like a number, perhaps a negative one. -/
def startsNumber : List Char → Bool
  | c :: d :: _ => c.isDigit || (c = '-' && d.isDigit)
  | [c] => c.isDigit
  | [] => false

/-- No word starts like a number. -/
theorem findWord_number {cs : List Char} (h : startsNumber cs = true) :
    words.findSome? (fun (word, v) => (afterWord? word cs).map fun rest => (v, rest)) = none := by
  have hwords : ∀ w ∈ words, 2 ≤ w.1.toList.length ∧ startsNumber w.1.toList = false := by
    simp only [words]
    decide
  rw [List.findSome?_eq_none_iff]
  rintro ⟨word, v⟩ hmem
  obtain ⟨hlength, hword⟩ := hwords _ hmem
  have htake : ¬ cs.take word.toList.length = word.toList := by
    intro htake
    rw [← List.take_append_drop word.toList.length cs, htake] at h
    match hchars : word.toList, hlength with
    | c :: d :: tail, _ =>
      rw [hchars] at h hword
      exact Bool.false_ne_true (hword.symm.trans h)
  dsimp only
  rw [afterWord?, if_neg htake]
  rfl

-- ---------------------------------------------------------------------------
-- Single values
-- ---------------------------------------------------------------------------

/-- A value that is read back where something follows it in an object. -/
def Reads (v : Value) : Prop := ∀ fuel depth rest, Closing rest →
  readValue (fuel + 1) depth (skipSpaces ((write compact v).toList ++ rest)) = .ok (v, rest)

theorem skipSpaces_cons {c : Char} (h : isSpace c = false) (cs : List Char) :
    skipSpaces (c :: cs) = c :: cs :=
  List.dropWhile_cons_of_neg (by simp [h])

theorem readValue_plain {c : Char} (hquote : c ≠ '"') (hlist : c ≠ '[') (hobject : c ≠ '\x7b')
    (fuel depth : Nat) (cs : List Char) :
    readValue (fuel + 1) depth (c :: cs) = readPlain (c :: cs) := by
  rw [readValue]
  all_goals simp_all

theorem reads_text {s : String} (h : Exchangeable s) : Reads (.text s) := by
  intro fuel depth rest _
  obtain ⟨cs, hcs, hread⟩ := readText_textChars h rest
  rw [write, writeText, String.toList_ofList, hcs, skipSpaces_cons (by decide), readValue, hread]
  rfl

theorem reads_bool (b : Bool) : Reads (.bool b) := by
  intro fuel depth rest _
  cases b <;> rfl

def sign (negative : Bool) : List Char := if negative then ['-'] else []

theorem readValue_number (negative : Bool) {d : Nat} (hd : d < 10) (tail : List Char)
    (fuel depth : Nat) :
    readValue (fuel + 1) depth (skipSpaces (sign negative ++ digitChar d :: tail)) =
      readNumber negative (digitChar d :: tail) := by
  have hchars : ∀ d < 10, isSpace (digitChar d) = false ∧ digitChar d ≠ '"' ∧ digitChar d ≠ '[' ∧
    digitChar d ≠ '\x7b' ∧ digitChar d ≠ '-' := by decide
  obtain ⟨hspace, hquote, hlist, hobject, hminus⟩ := hchars d hd
  have hdigit := Numeral.isDigit_digitChar d hd
  cases negative with
  | false =>
    change readValue (fuel + 1) depth (skipSpaces (digitChar d :: tail)) = _
    have hstarts : startsNumber (digitChar d :: tail) = true := by
      cases tail <;> simp [startsNumber, hdigit]
    rw [skipSpaces_cons hspace, readValue_plain hquote hlist hobject, readPlain,
      findWord_number hstarts]
    exact fun _ heq => hminus (List.cons.inj heq).1
  | true =>
    change readValue (fuel + 1) depth (skipSpaces ('-' :: digitChar d :: tail)) = _
    have hstarts : startsNumber ('-' :: digitChar d :: tail) = true := by
      simp [startsNumber, hdigit]
    rw [skipSpaces_cons (by decide), readValue_plain (by decide) (by decide) (by decide), readPlain,
      findWord_number hstarts]

theorem reads_int {n : Int} (hn : (Numeral.natDigits n.natAbs).length ≤ Numeral.maxDigits) :
    Reads (.int n) := by
  intro fuel depth rest h
  have hnumber := readNumber_natDigits (decide (n < 0)) hn h
  have hchars : (write compact (.int n)).toList =
      sign (decide (n < 0)) ++ Numeral.natDigits n.natAbs := by
    rw [write, Numeral.ofInt, String.toList_ofList, Numeral.intDigits, sign]
    by_cases hnegative : n < 0 <;> simp [hnegative]
  obtain ⟨d, hd, tail, hdigits⟩ := Numeral.exists_natDigits n.natAbs
  rw [hchars, List.append_assoc]
  rw [hdigits, List.cons_append] at hnumber ⊢
  have hvalue : (if decide (n < 0) = true then -(n.natAbs : Int) else n.natAbs) = n := by
    by_cases hnegative : n < 0
    · rw [if_pos (decide_eq_true hnegative)]
      omega
    · rw [if_neg (by simpa using hnegative)]
      omega
  rw [readValue_number _ hd, hnumber, hvalue]

theorem reads_float (x : Binary64) : Reads (.float x) := by
  intro fuel depth rest h
  cases x with
  | nan => rfl
  | infinite negative => cases negative <;> rfl
  | finite negative units hfits =>
    obtain ⟨s, hs, hread⟩ := Binary64.exists_magnitudeText negative hfits
    have hnumber := readNumber_chars negative s h hread
    have hchars : (write compact (.float (.finite negative units hfits))).toList =
        sign negative ++ s.chars := by
      rw [← hs]
      cases negative <;> simp [write, writeFloat, Binary64.text, sign]
    obtain ⟨d, hd, tail, hhead⟩ := s.head_chars
    rw [hchars, List.append_assoc]
    rw [hhead, List.cons_append] at hnumber ⊢
    rw [readValue_number _ hd, hnumber]

-- ---------------------------------------------------------------------------
-- Objects
-- ---------------------------------------------------------------------------

variable {members : List (String × Value)}

def memberChars (m : String × Value) : List Char :=
  textChars m.1 ++ ':' :: (write compact m.2).toList

theorem toList_writeMembers (members : List (String × Value)) :
    (writeMembers compact members).map String.toList = members.map memberChars := by
  induction members with
  | nil => rfl
  | cons m members ih =>
    obtain ⟨name, v⟩ := m
    rw [writeMembers, List.map_cons, List.map_cons, ih]
    simp [memberChars, writeText, compact]

theorem toList_writeObject (members : List (String × Value)) :
    (write compact (.object members)).toList =
      '\x7b' :: ([','].intercalate (members.map memberChars) ++ ['\x7d']) := by
  rw [write, String.toList_append, String.toList_append, String.toList_intercalate,
    toList_writeMembers]
  rfl

theorem Closing.skipSpaces (h : Closing rest) : skipSpaces rest = rest := by
  cases rest with
  | nil => rfl
  | cons c rest =>
    have hc : isSpace c = false := h.head (P := fun c => isSpace c = false) rfl rfl c rfl
    exact skipSpaces_cons hc rest

/-- What is read after a member. -/
def afterMember (fuel depth : Nat) (members : OrderedMap Value) :
    List Char → Except ReadFailure (OrderedMap Value × List Char)
  | '\x7d' :: rest => .ok (members, rest)
  | ',' :: rest => readMembers fuel depth members (Json.skipSpaces rest)
  | _ => .error .malformed

theorem readMembers_member {name : String} (hname : Exchangeable name) (hv : Reads v)
    (h : Closing rest) (fuel depth : Nat) (before : OrderedMap Value) :
    readMembers (fuel + 2) depth before (memberChars (name, v) ++ rest) =
      afterMember (fuel + 1) depth (before.insert name v) rest := by
  obtain ⟨cs, hcs, hread⟩ :=
    readText_textChars hname (':' :: ((write compact v).toList ++ rest))
  rw [memberChars, List.append_assoc, List.cons_append, hcs, readMembers, hread]
  dsimp only
  rw [skipSpaces_cons (by decide)]
  simp only [hv fuel depth rest h, h.skipSpaces]
  rfl

/-- Members start with a quote. -/
theorem exists_memberChars (m : String × Value) (members : List (String × Value))
    (rest : List Char) :
    ∃ cs, [','].intercalate ((m :: members).map memberChars) ++ rest = '"' :: cs := by
  cases members with
  | nil => exact ⟨_, rfl⟩
  | cons next members =>
    rw [List.map_cons, List.map_cons, List.intercalate_cons_cons]
    exact ⟨_, rfl⟩

theorem readMembers_members (hnames : ∀ m ∈ members, Exchangeable m.1)
    (hvalues : ∀ m ∈ members, Reads m.2) (hne : members ≠ []) {fuel : Nat}
    (hfuel : members.length < fuel) (depth : Nat) (before : OrderedMap Value) :
    readMembers fuel depth before
        ([','].intercalate (members.map memberChars) ++ '\x7d' :: rest) =
      .ok (before.insertAll members, rest) := by
  induction members generalizing fuel before with
  | nil => exact absurd rfl hne
  | cons m members ih =>
    obtain ⟨name, v⟩ := m
    obtain ⟨hname, hnames⟩ := List.forall_mem_cons.mp hnames
    obtain ⟨hv, hvalues⟩ := List.forall_mem_cons.mp hvalues
    rw [List.length_cons] at hfuel
    -- A member takes one unit of fuel, and what is read below it at least another.
    obtain ⟨fuel, rfl⟩ := Nat.exists_eq_add_of_le' (show 2 ≤ fuel by omega)
    cases members with
    | nil =>
      have hclosing : Closing ('\x7d' :: rest) := by
        rintro c ⟨rfl⟩
        exact .inr rfl
      rw [List.map_cons, List.map_nil, List.intercalate_singleton,
        readMembers_member hname hv hclosing]
      rfl
    | cons next members =>
      have hclosing (cs : List Char) : Closing (',' :: cs) := by
        rintro c ⟨rfl⟩
        exact .inl rfl
      have hfuel : (next :: members).length < fuel + 1 := by omega
      have ih := ih hnames hvalues (List.cons_ne_nil _ _) hfuel (before.insert name v)
      rw [List.map_cons, List.map_cons, List.intercalate_cons_cons, ← List.map_cons,
        List.append_assoc, List.append_assoc, List.singleton_append,
        readMembers_member hname hv (hclosing _)]
      obtain ⟨cs, hcs⟩ := exists_memberChars next members ('\x7d' :: rest)
      rw [hcs] at ih ⊢
      rw [afterMember, skipSpaces_cons (by decide), ih]
      rfl

theorem length_le_memberChars (members : List (String × Value)) :
    members.length ≤ ([','].intercalate (members.map memberChars)).length := by
  induction members with
  | nil => exact Nat.zero_le _
  | cons m members ih =>
    cases members with
    | nil => simp [memberChars, textChars]
    | cons next members =>
      rw [List.map_cons, List.map_cons, List.intercalate_cons_cons, ← List.map_cons,
        List.length_append, List.length_append, List.length_cons, List.length_singleton]
      omega

theorem readValue_members (fuel depth : Nat) (cs : List Char) :
    readValue (fuel + 1) (depth + 1) ('\x7b' :: '"' :: cs) =
      (readMembers fuel depth ∅ ('"' :: cs)).map fun (members, rest) =>
        (.object members.entries, rest) :=
  rfl

/-- An object of values that are read back is read back. -/
theorem read_writeObject (hdistinct : (members.map Prod.fst).Nodup)
    (hnames : ∀ m ∈ members, Exchangeable m.1) (hvalues : ∀ m ∈ members, Reads m.2) :
    read (write compact (.object members)) = .ok (.object members) := by
  have hentries : ((∅ : OrderedMap Value).insertAll members).entries = members :=
    OrderedMap.entries_insertAll hdistinct fun _ _ => List.not_mem_nil
  have hlength := length_le_memberChars members
  rw [read, toList_writeObject, skipSpaces_cons (by decide)]
  cases members with
  | nil => rfl
  | cons m members =>
    obtain ⟨cs, hcs⟩ := exists_memberChars m members ['\x7d']
    obtain ⟨depth, hdepth⟩ : ∃ depth, depthLimit = depth + 1 := ⟨_, rfl⟩
    rw [hcs, hdepth, readValue_members, ← hcs,
      readMembers_members hnames hvalues (List.cons_ne_nil _ _)]
    · exact congrArg (Except.ok ∘ Value.object) hentries
    · simp only [List.length_cons, List.length_append] at hlength ⊢
      omega

end Bitemporal.Json
