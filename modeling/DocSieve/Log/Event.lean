/-!
# Log events

An event has a level, the name of the part that it comes from, a message and
named values. It is written as one line, the message first.

Key definitions: `Level`, `LogEvent`, `LogEvent.line`.
-/

namespace DocSieve

/-- How much is told. At `off` nothing is. -/
inductive Level
  | off
  | error
  | warn
  | info
  | debug
  | trace
  deriving DecidableEq, Repr

namespace Level

/-- The place among the levels, the most urgent ones first. -/
def rank : Level → Nat
  | .off => 0
  | .error => 1
  | .warn => 2
  | .info => 3
  | .debug => 4
  | .trace => 5

/-- The level of a rank. -/
def ofRank? : Nat → Option Level
  | 0 => some .off
  | 1 => some .error
  | 2 => some .warn
  | 3 => some .info
  | 4 => some .debug
  | 5 => some .trace
  | _ => none

def name : Level → String
  | .off => "off"
  | .error => "error"
  | .warn => "warn"
  | .info => "info"
  | .debug => "debug"
  | .trace => "trace"

def all : List Level := [.off, .error, .warn, .info, .debug, .trace]

end Level

/-- Something worth telling. -/
structure LogEvent where
  level : Level
  /-- The part of the program that tells it. -/
  target : String
  message : String
  /-- Named values, as they are written. -/
  values : List (String × String)
  /-- The names of what it carries besides and does not write, since two runs
  that do the same differ in it. -/
  unwritten : List String
  deriving DecidableEq, Repr

namespace LogEvent

/-- An event that writes all it carries. -/
def plain (level : Level) (target message : String) (values : List (String × String)) : LogEvent :=
  ⟨level, target, message, values, []⟩

/-- The event on one line. -/
def line (e : LogEvent) : String :=
  e.level.name.toUpper ++ " " ++ e.target ++ ": " ++ e.message
    ++ String.join (e.values.map fun (name, value) => " " ++ name ++ "=" ++ value)

/-- The names under which the event carries something. -/
def names (e : LogEvent) : List String := "message" :: e.values.map (·.1) ++ e.unwritten

end LogEvent

end DocSieve
