import Mathlib.Data.List.Nodup
import Bitemporal.CommandLine.Run
import Bitemporal.Proofs.MapperLaws

/-!
# Giving options

Whatever texts the options of a command have as values, a command line gives them: each option
stands in front of its value, which is not looked at. `ofArguments_assignLine` says so for the
command that shows what is stored of one interval.
-/

namespace Bitemporal.CommandLine

variable {ends : Ends (Option String)} {field now : Option String}

-- ---------------------------------------------------------------------------
-- Options in front of their values
-- ---------------------------------------------------------------------------

namespace Arguments

/-- An argument that names an option and nothing else. -/
structure Names (names : List OptionName) (o : OptionName) : Prop where
  dashes : o.long ≠ "--"
  option : isOption o.long = true
  help : o.long ≠ helpOption
  named : named? names o.long = some (o, none)

theorem read?_spelled {names : List OptionName} {options : List (OptionName × String)}
    (h : ∀ option ∈ options, Names names option.1) :
    read? names (options.flatMap fun option => [option.1.long, option.2]) =
      some { options := options.map fun option => (option.1.long, option.2) } := by
  induction options with
  | nil => rfl
  | cons option rest ih =>
    obtain ⟨hdashes, hoption, hhelp, hnamed⟩ := h option List.mem_cons_self
    have hrest := ih fun o ho => h o (List.mem_cons_of_mem option ho)
    rw [List.flatMap_cons, List.cons_append, List.singleton_append, read?]
    · simp [hoption, hhelp, hnamed, hrest, withOption]
    · exact hdashes

theorem value?_of_mem {a : Arguments} {long value : String}
    (hnodup : (a.options.map Prod.fst).Nodup) (h : (long, value) ∈ a.options) :
    a.value? long = some value := by
  have hfound : (a.options.reverse.find? fun o => o.1 = long).isSome = true :=
    List.find?_isSome.mpr ⟨_, List.mem_reverse.mpr h, by simp⟩
  obtain ⟨option, hoption⟩ := Option.isSome_iff_exists.mp hfound
  have hmem := List.mem_reverse.mp (List.mem_of_find?_eq_some hoption)
  have hlong : option.1 = long := by simpa using List.find?_some hoption
  have hsame : option = (long, value) := List.inj_on_of_nodup_map hnodup hmem h hlong
  rw [value?, hoption, Option.map_some, hsame]

theorem value?_of_not_mem {a : Arguments} {long : String} (h : ∀ o ∈ a.options, o.1 ≠ long) :
    a.value? long = none := by
  rw [value?, Option.map_eq_none_iff, List.find?_eq_none]
  intro o ho
  simpa using h o (List.mem_reverse.mp ho)

end Arguments

-- ---------------------------------------------------------------------------
-- The options of the command that shows an interval
-- ---------------------------------------------------------------------------

def assignOptions : List OptionName :=
  Axis.all.map endOption ++ [fieldOption, patternOption, nowOption]

def valueOptions : List OptionName := Axis.all.map endOption ++ [fieldOption, nowOption]

/-- The options but the pattern, with the values that they may have. -/
def choices (ends : Ends (Option String)) (field now : Option String) :
    List (OptionName × Option String) :=
  Axis.all.map (fun axis => (endOption axis, ends.get axis)) ++
    [(fieldOption, field), (nowOption, now)]

def given (ends : Ends (Option String)) (field now : Option String) : List (OptionName × String) :=
  (choices ends field now).filterMap fun choice => choice.2.map fun value => (choice.1, value)

/-- The command line that gives each option in front of its value. -/
def assignLine (ends : Ends (Option String)) (field now : Option String) : List String :=
  "assign" :: (given ends field now).flatMap fun option => [option.1.long, option.2]

/-- The arguments that the options with a value make. -/
def givenArguments (ends : Ends (Option String)) (field now : Option String) : Arguments :=
  { options := (given ends field now).map fun option => (option.1.long, option.2) }

theorem pairwise_choices (ends : Ends (Option String)) (field now : Option String) :
    (choices ends field now).Pairwise fun a b => a.1.long ≠ b.1.long := by
  have hnames : ((choices ends field now).map fun choice => choice.1.long) =
      valueOptions.map OptionName.long := rfl
  rw [← List.pairwise_map, hnames]
  decide

theorem mem_given {o : OptionName} {value : String} :
    (o, value) ∈ given ends field now ↔ (o, some value) ∈ choices ends field now := by
  simp only [given, List.mem_filterMap, Option.map_eq_some_iff, Prod.mk.injEq, Prod.exists]
  constructor
  · rintro ⟨o', _, hmem, v, rfl, rfl, rfl⟩
    exact hmem
  · intro hmem
    exact ⟨o, some value, hmem, value, rfl, rfl, rfl⟩

theorem value?_given {o : OptionName} {value : Option String}
    (h : (o, value) ∈ choices ends field now) :
    (givenArguments ends field now).value? o.long = value := by
  have hpairwise := pairwise_choices ends field now
  cases value with
  | some value =>
    refine Arguments.value?_of_mem ?_ (List.mem_map.mpr ⟨_, mem_given.mpr h, rfl⟩)
    rw [givenArguments, List.map_map, List.Nodup, List.pairwise_map, given, List.pairwise_filterMap]
    refine hpairwise.imp fun {a b} hne x hx y hy => ?_
    obtain ⟨_, -, rfl⟩ := Option.map_eq_some_iff.mp hx
    obtain ⟨_, -, rfl⟩ := Option.map_eq_some_iff.mp hy
    exact hne
  | none =>
    refine Arguments.value?_of_not_mem fun option hoption hlong => ?_
    obtain ⟨⟨o', v⟩, hgiven, rfl⟩ := List.mem_map.mp hoption
    have hnodup : ((choices ends field now).map fun choice => choice.1.long).Nodup :=
      List.pairwise_map.mpr hpairwise
    have hsame := List.inj_on_of_nodup_map hnodup (mem_given.mp hgiven) h hlong
    cases hsame

theorem mem_valueOptions {option : OptionName × String} (h : option ∈ given ends field now) :
    option.1 ∈ valueOptions :=
  List.mem_map_of_mem (f := Prod.fst) (mem_given.mp h)

theorem names_valueOptions : ∀ o ∈ valueOptions, Arguments.Names assignOptions o := by
  simp only [valueOptions, Axis.all, List.map_cons, List.map_nil, List.cons_append, List.nil_append,
    List.forall_mem_cons]
  refine ⟨?_, ?_, ?_, ?_, ?_, ?_, List.forall_mem_nil _⟩ <;>
    exact ⟨by decide, by decide +kernel, by decide, rfl⟩

theorem build_given (ends : Ends (Option String)) (field now : Option String) :
    withoutPositional (fun a => .assign (Ends.ofFn fun axis => a.value? (endOption axis).long)
      (a.value? fieldOption.long) (a.value? patternOption.long) (a.value? nowOption.long))
      (givenArguments ends field now) = some (.assign ends field none now) := by
  have hend (axis : Axis) :
      (givenArguments ends field now).value? (endOption axis).long = ends.get axis :=
    value?_given (by cases axis <;> simp [choices, Axis.all])
  have hends : Ends.ofFn (fun axis =>
      (givenArguments ends field now).value? (endOption axis).long) = ends :=
    Ends.ext_get fun axis => by rw [Ends.get_ofFn, hend axis]
  have hfield : (givenArguments ends field now).value? fieldOption.long = field :=
    value?_given (by simp [choices])
  have hnow : (givenArguments ends field now).value? nowOption.long = now :=
    value?_given (by simp [choices])
  have hpattern : (givenArguments ends field now).value? patternOption.long = none := by
    refine Arguments.value?_of_not_mem fun option hoption hlong => ?_
    obtain ⟨pair, hgiven, rfl⟩ := List.mem_map.mp hoption
    have hother : ∀ o ∈ valueOptions, o.long ≠ patternOption.long := by decide
    exact hother _ (mem_valueOptions hgiven) hlong
  have hpositional : (givenArguments ends field now).positional = [] := rfl
  rw [withoutPositional, hpositional, hends, hfield, hnow, hpattern]

/-- Each choice of values can be given. -/
theorem ofArguments_assignLine (ends : Ends (Option String)) (field now : Option String) :
    Invocation.ofArguments (assignLine ends field now) =
      .command (.assign ends field none now) := by
  have hhelp : helpOptions.contains "assign" = false := by decide
  have hoption : Arguments.isOption "assign" = false := by decide +kernel
  have hleading (rest : List String) :
      leading? ("assign" :: rest) = some (false, "assign" :: rest) := by
    rw [leading?, hhelp, hoption]
    · rfl
    · decide
  have hread : Arguments.read? assignOptions ((given ends field now).flatMap fun option =>
      [option.1.long, option.2]) = some (givenArguments ends field now) :=
    Arguments.read?_spelled fun _ h => names_valueOptions _ (mem_valueOptions h)
  have hform : form? "assign" = some ⟨"assign", assignOptions, withoutPositional fun a =>
      .assign (Ends.ofFn fun axis => a.value? (endOption axis).long) (a.value? fieldOption.long)
        (a.value? patternOption.long) (a.value? nowOption.long)⟩ := rfl
  have hnohelp : (givenArguments ends field now).help = false := rfl
  simp only [Invocation.ofArguments, assignLine, hleading, ofCommand, hform, hread, hnohelp,
    build_given, Option.isSome_some, if_true, Bool.false_eq_true, if_false]

end Bitemporal.CommandLine
