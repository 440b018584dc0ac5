import Bitemporal.Settings.Sources
import Bitemporal.Yaml.Datum

/-!
# Settings files

A settings file is a YAML mapping from names of settings to their values. It is found under a given
path, or else at the first of several places. Environment variables win over a file; names that
are no settings are reported and passed over.
-/

namespace Bitemporal.Settings

structure Reported (α : Type) where
  log : List LogEntry
  result : Except Error α

namespace Reported

variable {α β : Type}

def andThen (r : Reported α) (f : α → Reported β) : Reported β :=
  match r.result with
  | .error e => ⟨r.log, .error e⟩
  | .ok x =>
    let next := f x
    ⟨r.log ++ next.log, next.result⟩

end Reported

def fileVariable : String := variablePrefix ++ "CONFIG_FILE"

def localNames : List String := ["chronodx.yaml", "chronodx.yml"]

def homeNames : List (List String) := [[".chronodx", "config.yaml"], [".chronodx", "config.yml"]]

def explicitPath? (s : Surroundings) : Option String :=
  (s.valueOf? fileVariable).filter (· ≠ "")

/-- Where a settings file is looked for, in order. The home directory has to be known. -/
def candidates (s : Surroundings) (explicit : Option String) : Except Error (List String) := do
  let home ← s.expand "~"
  return explicit.toList ++ localNames ++ homeNames.map (Path.join home)

def firstThere (s : Surroundings) : List String → Except Error (Option String)
  | [] => .ok none
  | path :: rest => do
    if ← s.pathExists path then return some path else firstThere s rest

def findExplicit (s : Surroundings) : Reported (Option String) :=
  match explicitPath? s with
  | none => ⟨[], .ok none⟩
  | some name =>
    let found : Except Error (String × Bool) := do
      let path ← s.expand name
      return (path, ← s.pathExists path)
    match found with
    | .error e => ⟨[], .error e⟩
    | .ok (path, true) => ⟨[], .ok (some path)⟩
    | .ok (path, false) =>
      ⟨[⟨.warning, "Config file from " ++ fileVariable ++ " not found: " ++ name⟩], .ok (some path)⟩

def findFile (s : Surroundings) : Reported (Option String) :=
  (findExplicit s).andThen fun explicit =>
    match candidates s explicit >>= firstThere s with
    | .error e => ⟨[], .error e⟩
    | .ok none => ⟨[], .ok none⟩
    | .ok (some path) => ⟨[⟨.debug, "Found config file: " ++ path⟩], .ok (some path)⟩

def requireFile (s : Surroundings) (path : String) : Except Error String := do
  let path ← s.expand path
  if ← s.pathExists path then return path else throw (.configNotFound path)

/-- The entries of a settings file. A blank document has none. -/
def readFile (s : Surroundings) (path : String) :
    Except Error (List (Value × Value)) :=
  match s.entry path with
  | .error e => .error e
  | .ok none => .error (.configNotFound path)
  | .ok (some .directory) => .error .configIsDirectory
  | .ok (some (.text text)) =>
    match Yaml.Datum.read (String.ofList (Surroundings.unifiedBreaks text.toList)) with
    | .error .malformed => .error (.configSyntax path)
    | .error cause => .error (.configScalar cause)
    | .ok d =>
      if d.isBlank then .ok []
      else
        match d with
        | .mapping entries => .ok entries
        | d => .error (.configNotMapping d.kind)

def sortEntry (s : Surroundings) (path : String) (key v : Value) :
    (String × Value) ⊕ LogEntry :=
  match key with
  | .text name =>
    if !names.contains name then unknown name
    else if (s.valueOf? (variableName name)).isSome then
      .inr ⟨.debug, "YAML key '" ++ name ++ "' overridden by environment"⟩
    else .inl (name, v)
  | key => unknown key.plain
where
  /-- The report of a name that is no setting. -/
  unknown (name : String) : (String × Value) ⊕ LogEntry :=
    .inr ⟨.warning, "Ignoring unknown setting '" ++ name ++ "' in " ++ path⟩

def ofFile (s : Surroundings) (path : Option String) : Reported Settings :=
  match path with
  | none => ⟨[], ofSources [] s⟩
  | some path =>
    match readFile s path with
    | .error e => ⟨[], .error e⟩
    | .ok entries =>
      let sorted := entries.map fun (key, v) => sortEntry s path key v
      let values := sorted.filterMap Sum.getLeft?
      ⟨⟨.info, "Loaded configuration from: " ++ path⟩ :: sorted.filterMap Sum.getRight?,
        ofSources values s⟩

/-- The settings of the file at a path, or of the first file that is found. -/
def load (s : Surroundings) (path : Option String) : Reported Settings :=
  match path.filter (· ≠ "") with
  | some path => Reported.andThen ⟨[], requireFile s path⟩ fun path => ofFile s (some path)
  | none => (findFile s).andThen (ofFile s)

end Bitemporal.Settings
