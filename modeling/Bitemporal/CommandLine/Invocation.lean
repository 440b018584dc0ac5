import Bitemporal.Axis

/-!
# Reading command lines

A command line is a command and its arguments. Options may stand among the arguments of a command
and take a value: the next argument whatever it looks like, what follows an equals sign, or what
follows the letter of a short option. Two dashes end the options. The last value of an option
counts.
-/

namespace Bitemporal.CommandLine

inductive Command where
  /-- Show what is stored of one interval. -/
  | assign (ends : Ends (Option String)) (field pattern now : Option String)
  /-- Show the predicate of one condition. -/
  | explain (condition : String) (pattern now : Option String)
  | version
  /-- Show the settings. -/
  | config (path : Option String)

inductive Invocation where
  | command (c : Command)
  | help
  /-- The command line makes no sense. -/
  | refused

/-! ## Arguments -/

structure OptionName where
  long : String
  short : Option Char := none

structure Arguments where
  options : List (String × String) := []
  positional : List String := []
  help : Bool := false

namespace Arguments

def withOption (long value : String) (a : Arguments) : Arguments :=
  { a with options := (long, value) :: a.options }

def value? (a : Arguments) (long : String) : Option String :=
  (a.options.reverse.find? fun o => o.1 = long).map Prod.snd

/-- What stands in front of the first equals sign and, if there is one, what follows it. -/
def splitAssigned (arg : String) : String × Option String :=
  let cs := arg.toList
  match cs.dropWhile (· ≠ '=') with
  | [] => (arg, none)
  | _ :: rest => (String.ofList (cs.takeWhile (· ≠ '=')), some (String.ofList rest))

def isOption (arg : String) : Bool := arg.startsWith "-" && 1 < arg.length

def helpOption : String := "--help"

/-- An option that an argument names, and the value that the argument holds as well. -/
def named? (names : List OptionName) (arg : String) : Option (OptionName × Option String) :=
  let (long, value) := splitAssigned arg
  match names.find? fun o => o.long = long with
  | some o => some (o, value)
  | none =>
    match arg.toList with
    | '-' :: c :: rest =>
      (names.find? fun o => o.short = some c).map fun o =>
        (o, if rest.isEmpty then none else some (String.ofList rest))
    | _ => none

/-- Tells options and other arguments apart. Unknown options and options without their value are
not understood. -/
def read? (names : List OptionName) : List String → Option Arguments
  | [] => some {}
  | "--" :: rest => some { positional := rest }
  | arg :: rest =>
    if !isOption arg then
      (read? names rest).map fun a => { a with positional := arg :: a.positional }
    else if arg = helpOption then (read? names rest).map fun a => { a with help := true }
    else
      match named? names arg with
      | none => none
      | some (o, some value) => (read? names rest).map (withOption o.long value)
      | some (o, none) =>
        match rest with
        | value :: rest => (read? names rest).map (withOption o.long value)
        | [] => none

end Arguments

/-! ## Commands -/

def fieldOption : OptionName := ⟨"--field", some 'f'⟩

def patternOption : OptionName := ⟨"--pattern", some 'p'⟩

def nowOption : OptionName := ⟨"--now", none⟩

def pathOption : OptionName := ⟨"--path", some 'p'⟩

def endOption (axis : Axis) : OptionName :=
  ⟨"--" ++ String.ofList (axis.column.toList.map fun c => if c = '_' then '-' else c), none⟩

structure CommandForm where
  name : String
  options : List OptionName
  build : Arguments → Option Command

def withoutPositional (build : Arguments → Command) (a : Arguments) : Option Command :=
  match a.positional with
  | [] => some (build a)
  | _ => none

def forms : List CommandForm := [
  ⟨"assign", Axis.all.map endOption ++ [fieldOption, patternOption, nowOption],
    withoutPositional fun a => .assign (Ends.ofFn fun axis => a.value? (endOption axis).long)
      (a.value? fieldOption.long) (a.value? patternOption.long) (a.value? nowOption.long)⟩,
  ⟨"explain", [patternOption, nowOption], fun a =>
    match a.positional with
    | [condition] =>
      some (.explain condition (a.value? patternOption.long) (a.value? nowOption.long))
    | _ => none⟩,
  ⟨"version", [], withoutPositional fun _ => .version⟩,
  ⟨"config", [pathOption], withoutPositional fun a => .config (a.value? pathOption.long)⟩]

def form? (name : String) : Option CommandForm := forms.find? fun form => form.name = name

def ofCommand (name : String) (args : List String) : Invocation :=
  match form? name with
  | none => .refused
  | some form =>
    match Arguments.read? form.options args with
    | none => .refused
    | some a =>
      if a.help then .help
      else
        match form.build a with
        | some c => .command c
        | none => .refused

def helpOptions : List String :=
  [Arguments.helpOption, "--install-completion", "--show-completion"]

/-- The options in front of the command: whether help is asked for, and what follows them. Nothing
is returned where an option is not understood. -/
def leading? : List String → Option (Bool × List String)
  | [] => some (false, [])
  | "--" :: rest => some (false, rest)
  | arg :: rest =>
    if helpOptions.contains arg then (leading? rest).map fun (_, rest) => (true, rest)
    else if Arguments.isOption arg then none
    else some (false, arg :: rest)

/-- A whole command line. Two dashes in front of the command end the options; if no command
follows them, options are looked for once more. -/
def Invocation.ofArguments (args : List String) : Invocation :=
  match leading? args with
  | none => .refused
  | some (true, _) => .help
  | some (false, []) => .refused
  | some (false, name :: args) =>
    if (form? name).isSome then ofCommand name args
    else
      match leading? (name :: args) with
      | some (true, _) => .help
      | _ => .refused

end Bitemporal.CommandLine
