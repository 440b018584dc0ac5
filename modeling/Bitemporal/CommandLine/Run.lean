import Bitemporal.CommandLine.Console
import Bitemporal.CommandLine.Invocation
import Bitemporal.Condition
import Bitemporal.Predicate.Written
import Bitemporal.Settings.File

/-!
# Commands

What a command line does in given surroundings: what it prints on a console, whether it succeeds
and at which level it logs. Settings are loaded before anything else is looked at. If the console
refuses to print, nothing is printed and its error escapes.
-/

namespace Bitemporal.CommandLine

structure Outcome where
  exitCode : Nat
  printed : List Printed
  logLevel : String
  /-- An error that no command reports. -/
  unreported : Option Error

inductive CommandResult where
  | done (printed : Printed)
  | reported (e : Error)
  | unreported (e : Error)

/-- The exit code of a command and what it has to print, or the error that it leaves to nobody. -/
def CommandResult.answer : CommandResult → Except Error (Nat × Printed)
  | .done printed => .ok (0, printed)
  | .reported e => .ok (1, .failure e)
  | .unreported e => .error e

def isLibraryError : Error → Bool
  | .input _ | .configuration _ | .sortRefused _ | .mismatch _ => true
  | _ => false

def isFormError : Error → Bool
  | .invalid _ | .jsonSyntax | .conditionNotObject _ | .numeralNotReadable
  | .configNotMapping _ | .configSyntax _ | .configScalar .unreadable | .notEncodable
  | .unshown .oversizedNumeral => true
  | _ => false

def isSettingsError : Error → Bool
  | .configNotFound _ => true
  | e => isFormError e

/-- The value that an argument stands for: an integer if it holds nothing but digits. -/
def argumentValue (arg : String) : Except Error Bound :=
  let digits := Text.trimmed arg
  if !digits.isEmpty && digits.all Text.isDigitLike then
    match Numeral.readInt? arg.toList with
    | some n => .ok (.millis n)
    | none => .error .numeralNotReadable
  else .ok (.text arg)

def optionalValue : Option String → Except Error (Option Bound)
  | none => .ok none
  | some arg => (argumentValue arg).map some

def buildMapper (settings : Settings) (field : String) (pattern now : Option String) :
    Except Error Mapper := do
  let now ← optionalValue now
  (MapperOptions.bitemporal (Ends.ofFn fun axis => some axis.column) pattern now).build field
    (some settings)

/-! ## The commands -/

def defaultField : String := "validity"

def storedTable (stored : StoredInterval) : Printed :=
  .table ("Partition " ++ stored.partition.name) ("Field", "Value")
    (stored.fields.entries.map fun (name, value) => (name, Numeral.ofInt value))

def assign (settings : Settings) (ends : Ends (Option String)) (field pattern now : Option String) :
    CommandResult :=
  match Ends.forAll? fun axis => optionalValue (ends.get axis) with
  | .error e => .unreported e
  | .ok bounds =>
    let record : Record := OrderedMap.ofList (Axis.all.map fun axis =>
      (axis.column, ((bounds.get axis).map Bound.value).getD .null))
    let stored : Except Error (Option StoredInterval) := do
      match ← buildMapper settings (field.getD defaultField) pattern now with
      | .bitemporal m => m.store record
      | .long _ => return none
    match stored with
    | .ok none => .done (.line "[yellow]No bitemporal data; nothing stored[/yellow]")
    | .ok (some stored) => .done (storedTable stored)
    | .error e => if isLibraryError e then .reported e else .unreported e

def explain (settings : Settings) (condition : String) (pattern now : Option String) :
    CommandResult :=
  let predicate : Except Error (Predicate Binary64) := do
    let c ← Condition.ofJson condition
    let m ← buildMapper settings c.field pattern now
    let schema ← Schema.ofMappers [m]
    c.query schema settings.defaultBoost
  match predicate with
  | .ok p => .done (.json (Json.write Json.spaced p.written))
  | .error e => if isLibraryError e || isFormError e then .reported e else .unreported e

def versionLine : String := "[bold]chronodx[/bold] v0.3.0"

def settingsTable (settings : Settings) : Printed :=
  .table "Current Configuration" ("Setting", "Value")
    (settings.members.map fun (name, value) => (name, value.plain))

def showSettings (settings : Settings) : CommandResult :=
  match settings.members.findSome? fun member => member.2.fault? Value.depthLimit with
  | none => .done (settingsTable settings)
  | some fault => .unreported (.unshown fault)

def config (s : Surroundings) (settings : Settings) (path : Option String) : CommandResult :=
  match path with
  | none => showSettings settings
  | some path =>
    if !Path.isEncodable path then .unreported .notEncodable
    else if path.toList.contains '\x00' then .unreported .pathNotReadable
    else match (Settings.load s (some (Path.normal path))).result with
    | .ok settings => showSettings settings
    | .error e => if isSettingsError e then .reported e else .unreported e

def perform (s : Surroundings) (settings : Settings) : Command → CommandResult
  | .assign ends field pattern now => assign settings ends field pattern now
  | .explain condition pattern now => explain settings condition pattern now
  | .version => .done (.line versionLine)
  | .config path => config s settings path

def print (console : Console) (logLevel : String) (exitCode : Nat) (printed : Printed) : Outcome :=
  match console.refusal? printed with
  | none => ⟨exitCode, [printed], logLevel, none⟩
  | some e => ⟨1, [], logLevel, some e⟩

def run (console : Console) (s : Surroundings) (args : List String) : Outcome :=
  match (Settings.load s none).result with
  | .error e => ⟨1, [], Settings.standard.logLevel, some e⟩
  | .ok settings =>
    match Invocation.ofArguments args with
    | .refused => ⟨2, [], settings.logLevel, none⟩
    | .help => ⟨0, [], settings.logLevel, none⟩
    | .command c =>
      match (perform s settings c).answer with
      | .ok (exitCode, printed) => print console settings.logLevel exitCode printed
      | .error e => ⟨1, [], settings.logLevel, some e⟩

end Bitemporal.CommandLine
