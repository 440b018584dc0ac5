/-!
# Log entries

What the library has to report besides its results.
-/

namespace Bitemporal

inductive LogLevel where
  | debug
  | info
  | warning
  | error
  | critical
  deriving DecidableEq, Repr

namespace LogLevel

def name : LogLevel → String
  | debug => "DEBUG"
  | info => "INFO"
  | warning => "WARNING"
  | error => "ERROR"
  | critical => "CRITICAL"

def severity : LogLevel → Nat
  | debug => 10
  | info => 20
  | warning => 30
  | error => 40
  | critical => 50

def all : List LogLevel := [debug, info, warning, error, critical]

def ofName? (name : String) : Option LogLevel := all.find? fun level => level.name = name

end LogLevel

structure LogEntry where
  level : LogLevel
  message : String

namespace LogEntry

def line (e : LogEntry) : String := e.level.name ++ " " ++ e.message

def atLeast (level : LogLevel) (entries : List LogEntry) : List LogEntry :=
  entries.filter fun e => level.severity ≤ e.level.severity

end LogEntry

end Bitemporal
