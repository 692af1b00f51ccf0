import DocSieve.Config.Basic
import DocSieve.Log.Event
import DocSieve.Sieve.Basic

/-!
# What a run tells

The events of a run, from reading the configuration to the last counts.

Key definitions: `LogEvent.configuration`, `LogEvent.stageFinished`,
`LogEvent.complete`.
-/

namespace DocSieve

/-- The part that runs everything. -/
def programTarget : String := "docpipe"

/-- The part that checks the configuration. -/
def configTarget : String := "docpipe_core::config"

namespace LogEvent

def number (n : UInt64) : String := Nat.repr n.toNat

/-- The configuration was read, or is not there. -/
def configuration (path : String) (found : Bool) : LogEvent :=
  plain .info programTarget
    (if found then "Configuration loaded" else "No configuration file, using defaults")
    [("path", path)]

/-- The configuration is refused. -/
def invalid (fault : Fault) : LogEvent :=
  plain .error programTarget "Invalid configuration" [("error", fault.message)]

/-- The bounds of the sizes are out of order. -/
def boundsCross (c : LoadConfig) : LogEvent :=
  plain .warn configTarget
    "load.min_text_size exceeds max_text_size; every document will use min_text_size"
    [("min", number c.minTextSize), ("max", number c.maxTextSize)]

/-- The file cannot be read. -/
def unreadable (path : String) (fault : Fault) : LogEvent :=
  plain .error programTarget "Cannot read source file"
    [("path", path), ("error", fault.message)]

/-- The file is there. -/
def sourceReady (path : String) (size : UInt64) : LogEvent :=
  plain .info programTarget "Source file ready" [("path", path), ("file_size", number size)]

/-- The time of the run is over. -/
def timeOver : LogEvent :=
  plain .info programTarget "Run duration elapsed, cancelling pipeline" []

/-- A result cannot be printed. -/
def outputFailed (fault : Fault) : LogEvent :=
  plain .error programTarget "Failed to write result, cancelling pipeline"
    [("error", fault.message)]

/-- A stage has ended. -/
def stageFinished (s : Summary) : LogEvent :=
  plain .info programTarget "Stage finished"
    [("stage", s.name), ("workers", Nat.repr s.workers), ("received", Nat.repr s.received),
      ("failed", Nat.repr s.failed), ("delivered", Nat.repr s.delivered),
      ("cancelled", if s.cancelled then "true" else "false")]

/-- The run has ended. The event carries the name of the run and its length,
too. -/
def complete (printed : Nat) (s : Sieve) : LogEvent where
  level := .info
  target := programTarget
  message := "Run complete"
  values := [("printed", Nat.repr printed),
    ("indexed", Nat.repr s.collection.index.size),
    ("duplicate_ratio", diagnosticStyle.double s.recorder.snapshot.duplicateRatio)]
  unwritten := ["run_id", "elapsed_ms"]

end LogEvent

end DocSieve
