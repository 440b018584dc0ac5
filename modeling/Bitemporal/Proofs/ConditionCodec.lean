import Bitemporal.Condition
import Bitemporal.Proofs.JsonLaws
import Bitemporal.Proofs.MapperLaws

/-!
# Conditions read back

A condition is written member by member, without what is not set. Reading finds every member that
is set under its name and supplies the others again, and it tells the two kinds of conditions by the
type member. So a condition comes back from its members, and from its JSON, if JSON can carry its
values.
-/

namespace Bitemporal

-- ---------------------------------------------------------------------------
-- Members that are set
-- ---------------------------------------------------------------------------

namespace Checked

variable {α : Type} {members : List (String × Value)} {name : String}

theorem required_some {v : Value} {read : Value → Checked α} {x : α}
    (h : member? members name = some v) (hread : read v = .ok x) :
    required members name read = .ok x := by
  rw [required, h]
  exact congrArg (Checked.under name) hread

theorem defaulted_some {v : Value} {default x : α} {read : Value → Checked α}
    (h : member? members name = some v) (hread : read v = .ok x) :
    defaulted members name default read = .ok x := by
  rw [defaulted, h]
  exact congrArg (Checked.under name) hread

/-- An optional value is read back from the member that holds it where it is set. -/
theorem opt_map {x : Option α} {value : α → Value} {read : Value → Checked α}
    (h : member? members name = x.map value) (hread : ∀ x, read (value x) = .ok x)
    (hnull : ∀ x, value x ≠ .null) : opt members name read = .ok x := by
  cases x with
  | none => rw [opt, defaulted, h]; rfl
  | some x =>
    refine defaulted_some h ?_
    unfold optional
    split
    case h_1 heq => exact absurd heq (hnull x)
    case h_2 => rw [hread]; rfl

theorem tag_text {expected : String} (h : member? members name = some (.text expected))
    (hhalf : Text.hasHalf expected = false) : tag members name expected = .ok () := by
  refine defaulted_some h ?_
  dsimp only
  rw [hhalf, if_neg Bool.false_ne_true, if_pos rfl]

theorem named_ok {names : List String} (h : (members.map Prod.fst).Sublist names)
    (hnames : ∀ name ∈ names, Text.hasHalf name = false) (c : Checked α) :
    named members c = c := by
  have hany : (members.any fun m => Text.hasHalf m.1) ≠ true := by
    rw [ne_eq, List.any_eq_true]
    rintro ⟨m, hm, hhalf⟩
    rw [hnames m.1 (h.subset (List.mem_map_of_mem hm))] at hhalf
    cases hhalf
  rw [named, if_neg hany]

theorem closed_ok {names : List String} (h : (members.map Prod.fst).Sublist names) :
    closed members names = .ok () := by
  have hextra : (members.filter fun m => !names.contains m.1) = [] := by
    rw [List.filter_eq_nil_iff]
    intro m hm
    simpa using h.subset (List.mem_map_of_mem hm)
  rw [closed, hextra]

theorem apply_ok {β : Type} {f : Checked (α → β)} {x : Unit → Checked α} {y : β} :
    apply f x = .ok y ↔ ∃ g a, f = .ok g ∧ x () = .ok a ∧ g a = y := by
  unfold apply
  constructor
  · intro h
    split at h
    case h_1 g a hx => exact ⟨g, a, rfl, hx, Except.ok.inj h⟩
    all_goals cases h
  · rintro ⟨g, a, hf, hx, rfl⟩
    rw [hf, hx]

theorem of_named_ok {c : Checked α} {x : α} (h : named members c = .ok x) : c = .ok x := by
  unfold named at h
  split at h
  case isTrue => cases h
  case isFalse => exact h

theorem under_ok {c : Checked α} {x : α} : c.under name = .ok x ↔ c = .ok x := by
  cases c with
  | ok y => rfl
  | error issues => exact ⟨nofun, nofun⟩

theorem of_required_ok {read : Value → Checked α} {x : α}
    (h : required members name read = .ok x) : ∃ v, read v = .ok x := by
  unfold required at h
  split at h
  case h_1 v _ => exact ⟨v, under_ok.mp h⟩
  case h_2 => cases h

end Checked

theorem Binary64.eqv_self {x : Binary64} (h : x ≠ .nan) : x.eqv x = true := by
  cases x with
  | nan => exact absurd rfl h
  | infinite negative => exact decide_eq_true rfl
  | finite negative units hfits => exact decide_eq_true rfl

theorem Bound.value_ne_null (b : Bound) : b.value ≠ .null := by
  cases b <;> exact fun h => Value.noConfusion h

theorem Bound.ofValue_value (b : Bound) : Bound.ofValue b.value = .ok b := by
  cases b <;> rfl

namespace Condition

-- ---------------------------------------------------------------------------
-- The members of a condition
-- ---------------------------------------------------------------------------

/-- All members that a condition may have, with the values of those that are set. -/
def slots : Condition → List (String × Option Value)
  | bitemporal c =>
    ("type", none) :: ("field", some (.text c.field)) :: ("boost", c.boost.map .float) ::
      Axis.all.map fun axis => (axis.column, (c.bounds.get axis).map Bound.value)
  | range c =>
    [("type", some (.text rangeTag)), ("field", some (.text c.field)),
      ("boost", c.boost.map .float), ("lower", c.lower.map .int), ("upper", c.upper.map .int),
      ("include_lower", some (.bool c.includeLower)),
      ("include_upper", some (.bool c.includeUpper))]

def setMembers (slots : List (String × Option Value)) : List (String × Value) :=
  slots.flatMap fun slot => setMember slot.1 slot.2

theorem members_eq (c : Condition) : c.members = setMembers c.slots := by
  cases c with
  | bitemporal c => simp [members, slots, setMembers, setMember, List.flatMap_map]
  | range c => simp [members, slots, setMembers, setMember]

theorem names_setMembers (slots : List (String × Option Value)) :
    ((setMembers slots).map Prod.fst).Sublist (slots.map Prod.fst) := by
  induction slots with
  | nil => exact .slnil
  | cons slot slots ih =>
    obtain ⟨name, v⟩ := slot
    cases v with
    | none => exact ih.cons name
    | some v => exact ih.cons_cons name

/-- A member is found under its name where it is set. -/
theorem member?_setMembers {slots : List (String × Option Value)} (h : (slots.map Prod.fst).Nodup)
    {name : String} {v : Option Value} (hslot : (name, v) ∈ slots) :
    Checked.member? (setMembers slots) name = v := by
  induction slots with
  | nil => cases hslot
  | cons slot slots ih =>
    obtain ⟨other, w⟩ := slot
    obtain ⟨hother, hslots⟩ := List.nodup_cons.mp h
    rcases List.mem_cons.mp hslot with heq | hrest
    · obtain ⟨rfl, rfl⟩ := Prod.mk.injEq .. ▸ heq
      cases v with
      | none =>
        refine List.lookup_eq_none_iff.mpr fun m hm => ?_
        simpa using fun heq : name = m.1 =>
          hother (heq ▸ (names_setMembers slots).subset (List.mem_map_of_mem hm))
      | some v => exact List.lookup_cons_self
    · have hne : (name == other) = false := by
        rw [beq_eq_false_iff_ne]
        rintro rfl
        exact hother (List.mem_map.mpr ⟨_, hrest, rfl⟩)
      cases w with
      | none => exact ih hslots hrest
      | some w =>
        change ((other, w) :: setMembers slots).lookup name = v
        rw [List.lookup_cons, hne]
        exact ih hslots hrest

def bitemporalNames : List String := ["type", "field", "boost"] ++ Axis.all.map Axis.column

def rangeNames : List String :=
  ["type", "field", "boost", "lower", "upper", "include_lower", "include_upper"]

/-- The names that a condition may have, in order. -/
def names : Condition → List String
  | bitemporal _ => bitemporalNames
  | range _ => rangeNames

theorem names_slots (c : Condition) : c.slots.map Prod.fst = c.names := by
  cases c <;> rfl

theorem names_cases {P : List String → Prop} (hbitemporal : P bitemporalNames)
    (hrange : P rangeNames) (c : Condition) : P c.names := by
  cases c with
  | bitemporal _ => exact hbitemporal
  | range _ => exact hrange

theorem nodup_names (c : Condition) : c.names.Nodup := names_cases (by decide) (by decide) c

theorem hasHalf_names (c : Condition) : ∀ name ∈ c.names, Text.hasHalf name = false :=
  names_cases (P := fun names => ∀ name ∈ names, Text.hasHalf name = false) (by decide) (by decide) c

theorem names_members (c : Condition) : (c.members.map Prod.fst).Sublist c.names := by
  rw [members_eq, ← names_slots]
  exact names_setMembers c.slots

theorem member?_members {c : Condition} {name : String} {v : Option Value}
    (h : (name, v) ∈ c.slots) : Checked.member? c.members name = v := by
  rw [members_eq]
  exact member?_setMembers (c.names_slots ▸ c.nodup_names) h

-- ---------------------------------------------------------------------------
-- Reading members
-- ---------------------------------------------------------------------------

theorem readField_text {s : String} (h : Text.allBlank s = false) :
    readField (.text s) = .ok s := by
  rw [readField, Checked.text]
  exact if_neg (by simp [h])

theorem bitemporalOfMembers_members {c : BitemporalCondition} (h : Text.allBlank c.field = false) :
    bitemporalOfMembers (bitemporal c).members = .ok c := by
  have htype : Checked.tag (bitemporal c).members "type" bitemporalTag = .ok () := by
    rw [Checked.tag, Checked.defaulted, member?_members (v := none) (by simp [slots])]
  have hfield : Checked.required (bitemporal c).members "field" readField = .ok c.field :=
    Checked.required_some (member?_members (by simp [slots])) (readField_text h)
  have hboost : Checked.opt (bitemporal c).members "boost" Checked.float = .ok c.boost :=
    Checked.opt_map (member?_members (v := c.boost.map .float) (by simp [slots]))
      (fun _ => rfl) fun _ h => Value.noConfusion h
  have hbound (axis : Axis) : Checked.opt (bitemporal c).members axis.column Bound.ofValue =
      .ok (c.bounds.get axis) :=
    Checked.opt_map (member?_members (by cases axis <;> simp [slots, Axis.all])) Bound.ofValue_value
      Bound.value_ne_null
  have hclosed : Checked.closed (bitemporal c).members
      (["type", "field", "boost"] ++ Axis.all.map Axis.column) = .ok () :=
    Checked.closed_ok (names_members (bitemporal c))
  rw [bitemporalOfMembers, Checked.named_ok (names_members _) (hasHalf_names (bitemporal c))]
  simp only [htype, hfield, hboost, hbound, hclosed]
  rfl

theorem rangeOfMembers_members {c : RangeCondition} (h : Text.allBlank c.field = false) :
    rangeOfMembers (range c).members = .ok c := by
  have htype : Checked.tag (range c).members "type" rangeTag = .ok () :=
    Checked.tag_text (member?_members (by simp [slots])) (by decide)
  have hfield : Checked.required (range c).members "field" readField = .ok c.field :=
    Checked.required_some (member?_members (by simp [slots])) (readField_text h)
  have hboost : Checked.opt (range c).members "boost" Checked.float = .ok c.boost :=
    Checked.opt_map (member?_members (v := c.boost.map .float) (by simp [slots]))
      (fun _ => rfl) fun _ h => Value.noConfusion h
  have hlower : Checked.opt (range c).members "lower" Checked.int = .ok c.lower :=
    Checked.opt_map (member?_members (v := c.lower.map .int) (by simp [slots]))
      (fun _ => rfl) fun _ h => Value.noConfusion h
  have hupper : Checked.opt (range c).members "upper" Checked.int = .ok c.upper :=
    Checked.opt_map (member?_members (v := c.upper.map .int) (by simp [slots]))
      (fun _ => rfl) fun _ h => Value.noConfusion h
  have hincludeLower : Checked.defaulted (range c).members "include_lower" true Checked.bool =
      .ok c.includeLower :=
    Checked.defaulted_some (v := .bool c.includeLower) (member?_members (by simp [slots])) rfl
  have hincludeUpper : Checked.defaulted (range c).members "include_upper" true Checked.bool =
      .ok c.includeUpper :=
    Checked.defaulted_some (v := .bool c.includeUpper) (member?_members (by simp [slots])) rfl
  have hclosed : Checked.closed (range c).members
      ["type", "field", "boost", "lower", "upper", "include_lower", "include_upper"] = .ok () :=
    Checked.closed_ok (names_members (range c))
  rw [rangeOfMembers, Checked.named_ok (names_members _) (hasHalf_names (range c))]
  simp only [htype, hfield, hboost, hlower, hupper, hincludeLower, hincludeUpper, hclosed]
  rfl

theorem ofMembers_members {c : Condition} (h : Text.allBlank c.field = false) :
    ofMembers c.members = .ok c := by
  cases c with
  | bitemporal c =>
    have htype : Checked.member? (bitemporal c).members "type" = none :=
      member?_members (by simp [slots])
    rw [ofMembers, htype]
    dsimp only
    rw [bitemporalOfMembers_members h]
    rfl
  | range c =>
    have htype : Checked.member? (range c).members "type" = some (.text rangeTag) :=
      member?_members (by simp [slots])
    have hne : rangeTag ≠ bitemporalTag := by decide
    rw [ofMembers, htype]
    dsimp only
    rw [if_neg hne, if_pos rfl, rangeOfMembers_members h]
    rfl

theorem ofValue_members {c : Condition} (h : Text.allBlank c.field = false) :
    ofValue (.object c.members) = .ok c := by
  rw [ofValue, ofMembers_members h]

theorem allBlank_of_readField {v : Value} {s : String} (h : readField v = .ok s) :
    Text.allBlank s = false := by
  unfold readField at h
  cases ht : Checked.text v with
  | error issues =>
    rw [ht] at h
    cases h
  | ok t =>
    rw [ht] at h
    change (if Text.allBlank t then Checked.fault .blankFieldName else .ok t) = Except.ok s at h
    split at h
    case isTrue => cases h
    case isFalse hblank => exact Except.ok.inj h ▸ Bool.eq_false_iff.mpr hblank

theorem required_of_bitemporalOfMembers {members : List (String × Value)} {c : BitemporalCondition}
    (h : bitemporalOfMembers members = .ok c) :
    Checked.required members "field" readField = .ok c.field := by
  obtain ⟨_, _, hcondition, -, rfl⟩ := Checked.apply_ok.mp (Checked.of_named_ok h)
  obtain ⟨c, hfourth, rfl⟩ := map_ok.mp hcondition
  obtain ⟨_, _, hthird, -, rfl⟩ := Checked.apply_ok.mp hfourth
  obtain ⟨_, _, hsecond, -, rfl⟩ := Checked.apply_ok.mp hthird
  obtain ⟨_, _, hfirst, -, rfl⟩ := Checked.apply_ok.mp hsecond
  obtain ⟨_, _, hhead, -, rfl⟩ := Checked.apply_ok.mp hfirst
  obtain ⟨_, _, hboost, -, rfl⟩ := Checked.apply_ok.mp hhead
  obtain ⟨_, _, htag, hfield, rfl⟩ := Checked.apply_ok.mp hboost
  obtain ⟨_, -, rfl⟩ := map_ok.mp htag
  exact hfield

theorem required_of_rangeOfMembers {members : List (String × Value)} {c : RangeCondition}
    (h : rangeOfMembers members = .ok c) :
    Checked.required members "field" readField = .ok c.field := by
  obtain ⟨_, _, hcondition, -, rfl⟩ := Checked.apply_ok.mp (Checked.of_named_ok h)
  obtain ⟨c, hfourth, rfl⟩ := map_ok.mp hcondition
  obtain ⟨_, _, hthird, -, rfl⟩ := Checked.apply_ok.mp hfourth
  obtain ⟨_, _, hsecond, -, rfl⟩ := Checked.apply_ok.mp hthird
  obtain ⟨_, _, hfirst, -, rfl⟩ := Checked.apply_ok.mp hsecond
  obtain ⟨_, _, hhead, -, rfl⟩ := Checked.apply_ok.mp hfirst
  obtain ⟨_, _, hboost, -, rfl⟩ := Checked.apply_ok.mp hhead
  obtain ⟨_, _, htag, hfield, rfl⟩ := Checked.apply_ok.mp hboost
  obtain ⟨_, -, rfl⟩ := map_ok.mp htag
  exact hfield

theorem of_ofMembers_ok {members : List (String × Value)} {c : Condition}
    (h : ofMembers members = .ok c) :
    (∃ b, bitemporalOfMembers members = .ok b ∧ bitemporal b = c) ∨
      ∃ r, rangeOfMembers members = .ok r ∧ range r = c := by
  unfold ofMembers at h
  split at h
  case h_1 => exact .inl (by simpa only [map_ok, Checked.under_ok] using h)
  case h_2 tag _ =>
    split at h
    case isTrue => exact .inl (by simpa only [map_ok, Checked.under_ok] using h)
    case isFalse =>
      split at h
      case isTrue => exact .inr (by simpa only [map_ok, Checked.under_ok] using h)
      case isFalse => cases h
  case h_3 => cases h

/-- The conditions that can be built are those whose field name is not blank. -/
theorem exists_ofMembers_iff {c : Condition} :
    (∃ members, ofMembers members = .ok c) ↔ Text.allBlank c.field = false := by
  refine ⟨?_, fun h => ⟨c.members, ofMembers_members h⟩⟩
  rintro ⟨members, h⟩
  have hfield : Checked.required members "field" readField = .ok c.field := by
    obtain ⟨b, hb, rfl⟩ | ⟨r, hr, rfl⟩ := of_ofMembers_ok h
    · exact required_of_bitemporalOfMembers hb
    · exact required_of_rangeOfMembers hr
  obtain ⟨v, hv⟩ := Checked.of_required_ok hfield
  exact allBlank_of_readField hv

-- ---------------------------------------------------------------------------
-- Exchange
-- ---------------------------------------------------------------------------

end Condition

namespace Json

/-- A single value that JSON carries: an integer must not have more digits than are printed. -/
def Carries : Value → Prop
  | .text s => Exchangeable s
  | .int n => (Numeral.natDigits n.natAbs).length ≤ Numeral.maxDigits
  | .bool _ | .float _ => True
  | _ => False

instance : DecidablePred Carries
  | .text s => inferInstanceAs (Decidable (Exchangeable s))
  | .int _ => inferInstanceAs (Decidable (_ ≤ _))
  | .bool _ | .float _ => isTrue trivial
  | .null | .bytes _ | .date _ | .dateTime _ | .list _ | .object _ => isFalse id

theorem carries_text {s : String} : Carries (.text s) ↔ Exchangeable s := .rfl

theorem carries_bool (b : Bool) : Carries (.bool b) := trivial

theorem carries_float (x : Binary64) : Carries (.float x) := trivial

theorem Carries.reads {v : Value} (h : Carries v) : Reads v := by
  cases v with
  | bool b => exact reads_bool b
  | int n => exact reads_int h
  | float x => exact reads_float x
  | text s => exact reads_text h
  | _ => exact h.elim

end Json

namespace Condition

/-- A condition whose values JSON carries: its texts, in particular all texts of characters, can be
exchanged, and its integers can be printed. -/
def Exchangeable (c : Condition) : Prop := ∀ m ∈ c.members, Json.Carries m.2

instance (c : Condition) : Decidable c.Exchangeable :=
  inferInstanceAs (Decidable (∀ m ∈ c.members, Json.Carries m.2))

theorem forall_setMembers {P : Value → Prop} (slots : List (String × Option Value)) :
    (∀ m ∈ setMembers slots, P m.2) ↔ ∀ slot ∈ slots, ∀ v ∈ slot.2, P v := by
  simp only [setMembers, List.forall_mem_flatMap]
  refine forall₂_congr fun ⟨name, v⟩ _ => ?_
  cases v <;> simp [setMember]

-- So only the field name and the bounds that are set decide.

theorem exchangeable_bitemporal {c : BitemporalCondition} : (bitemporal c).Exchangeable ↔
    Json.Exchangeable c.field ∧ ∀ axis, ∀ b ∈ c.bounds.get axis, Json.Carries b.value := by
  have hall (axis : Axis) : axis ∈ Axis.all := by cases axis <;> decide
  rw [Exchangeable, members_eq, forall_setMembers]
  simp [slots, Json.carries_text, Json.carries_float, hall]

theorem exchangeable_range {c : RangeCondition} : (range c).Exchangeable ↔
    Json.Exchangeable c.field ∧ ∀ n, n ∈ c.lower ∨ n ∈ c.upper → Json.Carries (.int n) := by
  have htag : Json.Exchangeable rangeTag := by decide
  rw [Exchangeable, members_eq, forall_setMembers]
  simp [slots, Json.carries_text, Json.carries_float, Json.carries_bool, htag, or_imp, forall_and]

theorem exchangeable_names (c : Condition) : ∀ name ∈ c.names, Json.Exchangeable name :=
  names_cases (P := fun names => ∀ name ∈ names, Json.Exchangeable name) (by decide) (by decide) c

theorem read_toJson {c : Condition} (h : c.Exchangeable) :
    Json.read c.toJson = .ok (.object c.members) :=
  Json.read_writeObject (c.names_members.nodup c.nodup_names)
    (fun m hm => c.exchangeable_names m.1 (c.names_members.subset (List.mem_map_of_mem hm)))
    fun m hm => (h m hm).reads

theorem same_self {c : Condition} (h : c.boost ≠ some .nan) : c.same c = true := by
  have hboost : sameBoost c.boost c.boost = true := by
    cases hb : c.boost with
    | none => rfl
    | some x => exact Binary64.eqv_self fun heq => h (heq ▸ hb)
  cases c with
  | bitemporal c =>
    change sameBoost c.boost c.boost = true at hboost
    simp [same, hboost]
  | range c =>
    change sameBoost c.boost c.boost = true at hboost
    simp [same, hboost]

/-- A condition that was built is read back from its members. It is read back from its JSON, too,
if JSON carries its values, and what was read is written as the same JSON again. -/
theorem round_trip {c : Condition} (h : ∃ members, ofMembers members = .ok c) :
    ofValue (.object c.members) = .ok c ∧ (c.boost ≠ some .nan → c.same c = true) ∧
      (c.Exchangeable → ofJson c.toJson = .ok c ∧ (ofJson c.toJson).map toJson = .ok c.toJson) := by
  have hvalue := ofValue_members (exists_ofMembers_iff.mp h)
  refine ⟨hvalue, same_self, fun hexchange => ?_⟩
  have hjson : ofJson c.toJson = .ok c := by
    rw [ofJson, read_toJson hexchange]
    exact hvalue
  rw [hjson]
  exact ⟨rfl, rfl⟩

/-- A text of digits stays a text, an integer may be long, and a half of a pair may stand alone. -/
theorem round_trip_escapes :
    let c : Condition := .bitemporal ⟨Text.kept "\t\"😀\\\u0007", some (.infinite true),
      ⟨some (.text "12"), some (.millis (-(10 ^ 40))),
        some (.text (String.ofList (Text.spell [.half 0, .char Text.mark, .char 'é']))), none⟩⟩
    (∃ members, ofMembers members = .ok c) ∧ c.Exchangeable ∧ c.boost ≠ some .nan ∧
      ofValue (.object c.members) = .ok c ∧ c.same c = true ∧ ofJson c.toJson = .ok c := by
  intro c
  have hbuilt : ∃ members, ofMembers members = .ok c :=
    exists_ofMembers_iff.mpr (by decide +kernel)
  have hexchange : c.Exchangeable := by decide +kernel
  have hboost : c.boost ≠ some .nan := by decide
  obtain ⟨hvalue, hsame, hjson⟩ := round_trip hbuilt
  exact ⟨hbuilt, hexchange, hboost, hvalue, hsame hboost, (hjson hexchange).1⟩

end Condition

end Bitemporal
