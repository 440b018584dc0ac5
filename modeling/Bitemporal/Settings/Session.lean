import Bitemporal.Settings.File

/-!
# Settings that are loaded once

A session loads the settings when they are asked for first and keeps them until they are reset,
whatever becomes of its surroundings. Settings that cannot be loaded are not kept.
-/

namespace Bitemporal.Settings

structure Session where
  surroundings : Surroundings
  kept : Option Settings := none

namespace Session

def get (s : Session) : Reported Settings × Session :=
  match s.kept with
  | some settings => (⟨[], .ok settings⟩, s)
  | none =>
    let loaded := load s.surroundings none
    match loaded.result with
    | .ok settings => (loaded, { s with kept := some settings })
    | .error _ => (loaded, s)

def reset (s : Session) : Session := { s with kept := none }

end Session

end Bitemporal.Settings
