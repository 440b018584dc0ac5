import Bitemporal.CommandLine.Layout
import Bitemporal.CommandLine.Run

/-!
The program: gathers the surroundings that a command line may look at, runs it and prints.
-/

namespace Bitemporal.CommandLine

def variableNames : List String :=
  "HOME" :: Settings.fileVariable :: Settings.names.map Settings.variableName

def gatherEnvironment : IO (OrderedMap String) := do
  let found ← variableNames.mapM fun name => return (name, ← IO.getEnv name)
  return OrderedMap.ofList (found.filterMap fun (name, v) => v.map fun v => (name, Text.kept v))

def addEntry (s : Surroundings) (path : String) : IO Surroundings := do
  match ← (IO.FS.readFile path).toBaseIO with
  | .ok text => return s.write path (Text.kept text)
  | .error (.inappropriateType ..) =>
    return { s with directories := s.absolute path :: s.directories }
  | .error _ => return s

def namedPaths (s : Surroundings) (args : List String) : List String :=
  match Invocation.ofArguments args with
  | .command (.config (some path)) => (Path.expand? s.homeOf? path).toList
  | _ => []

def gather (args : List String) : IO Surroundings := do
  let environment ← gatherEnvironment
  let directory ← IO.currentDir
  let s : Surroundings := { environment, directory := directory.toString, files := [] }
  let explicit := Settings.explicitPath? s >>= Path.expand? s.homeOf?
  let candidates := ((Settings.candidates s explicit).toOption).getD []
  (Settings.environmentFile :: candidates ++ namedPaths s args).foldlM addEntry s

end Bitemporal.CommandLine

open Bitemporal

def main (args : List String) : IO UInt32 := do
  let args := args.map Text.kept
  let outcome := CommandLine.run .plain (← CommandLine.gather args) args
  for printed in outcome.printed do
    for line in printed.lines do
      IO.println (Text.replaced line)
  if let some e := outcome.unreported then
    IO.eprintln (Text.replaced (CommandLine.errorLine e))
  return outcome.exitCode.toUInt32
