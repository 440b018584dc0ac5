import Bitemporal.EnvironmentFile
import Bitemporal.Settings
import Bitemporal.Surroundings

/-!
# Where settings come from

A setting is taken from the first of these sources that has it: the members given directly, the
environment variable of its name in any case, and the same variable in the environment file of the
working directory. `Settings.ofSources` checks what is found.
-/

namespace Bitemporal.Settings

def variablePrefix : String := "CHRONODX_"

def variableName (name : String) : String := variablePrefix ++ Text.upperAscii name

/-- The value of the variable of a setting in any case. The last one counts. -/
def lastValue? {α : Type} (name : String) (entries : List (String × α)) : Option α :=
  (entries.reverse.find? fun v => Text.lowerAscii v.1 = Text.lowerAscii (variableName name)).map
    Prod.snd

def environmentFile : String := ".env"

def fileVariables (s : Surroundings) : List (String × Option String) :=
  match s.entry environmentFile with
  | .ok (some (.text text)) =>
    (EnvironmentFile.read s.environment (String.ofList (Surroundings.unifiedBreaks text.toList))).entries
  | _ => []

def find? (given : List (String × Value)) (s : Surroundings) (name : String) : Option Value :=
  (given.lookup name).or
    (((lastValue? name s.environment.entries).or
      ((lastValue? name (fileVariables s)).bind id)).map Value.text)

def ofSources (given : List (String × Value)) (s : Surroundings) : Except Error Settings :=
  match ofMembers (names.filterMap fun name => (find? given s name).map fun v => (name, v)) with
  | .ok settings => .ok settings
  | .error issues => .error (.invalid issues)

end Bitemporal.Settings
