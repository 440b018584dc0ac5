import Bitemporal.Checked
import Bitemporal.InstantFormat
import Bitemporal.Log
import Bitemporal.Text.LetterCase

/-!
# Settings

The values that apply where a mapper, a schema or a condition does not say otherwise, and the rules
by which they are checked.
-/

namespace Bitemporal

structure Settings where
  environment : String
  logLevel : String
  datePattern : String
  nowValue : Option Bound
  defaultBoost : Binary64
  deriving DecidableEq

namespace Settings

def names : List String :=
  ["environment", "log_level", "date_pattern", "now_value", "default_boost"]

def standard : Settings := ⟨"development", "WARNING", InstantFormat.defaultPattern, none, 1⟩

def environments : List String := ["development", "staging", "production", "test"]

def readEnvironment (v : Value) : Checked String := do
  let s ← Checked.text v
  let lower := Text.lowerAscii s
  if environments.contains lower then return lower else Checked.fault .unknownEnvironment

def readLogLevel (v : Value) : Checked String := do
  let s ← Checked.text v
  let upper := Text.upperAscii s
  if (LogLevel.ofName? upper).isSome then return upper else Checked.fault .unknownLogLevel

def readBoost (v : Value) : Checked Binary64 := do
  let boost ← Checked.float v
  if boost.le 0 then Checked.fault (.boostNotPositive boost) else return boost

/-- The settings that members give; absent ones have their defaults and unknown ones are left
out of account. -/
def ofMembers (members : List (String × Value)) : Checked Settings :=
  Checked.apply
    (Checked.apply
      (Checked.apply
        (Checked.apply
          ((Checked.defaulted members "environment" standard.environment readEnvironment).map
            Settings.mk)
          fun _ => Checked.defaulted members "log_level" standard.logLevel readLogLevel)
        fun _ => Checked.defaulted members "date_pattern" standard.datePattern Checked.text)
      fun _ => Checked.opt members "now_value" Bound.ofValue)
    fun _ => Checked.defaulted members "default_boost" standard.defaultBoost readBoost

def members (s : Settings) : List (String × Value) := [
  ("environment", .text s.environment), ("log_level", .text s.logLevel),
  ("date_pattern", .text s.datePattern),
  ("now_value", (s.nowValue.map Bound.value).getD .null), ("default_boost", .float s.defaultBoost)]

end Settings

end Bitemporal
