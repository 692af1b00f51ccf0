import DocSieve.CommandLine.Events
import DocSieve.CommandLine.Help
import DocSieve.CommandLine.Results
import DocSieve.CommandLine.Settings
import DocSieve.Config.Toml
import DocSieve.Log.Filter
import DocSieve.Sieve.Run

/-!
# A run of the program

A run reads the flags and the configuration, checks it, looks at the file,
starts a sieve, and prints every decision. It tells what it does in events,
of which a filter lets some pass; before the configuration is read nothing is
told.

Key definitions: `Surroundings`, `Ending`, `Report`, `run`.
-/

namespace DocSieve

/-- What a run finds around it. -/
structure Surroundings where
  environment : Environment
  files : FileTree
  /-- The random words that the windows are drawn from. -/
  words : WordStream
  /-- The number of results that standard output takes, all if absent. -/
  room : Option Nat

/-- How a run ends. -/
inductive Ending
  | finished
  /-- The flags do not ask for a run. -/
  | stopped (stop : FlagStop)
  | failed (fault : Fault)
  /-- More is asked for than memory can hold, or a character would be broken. -/
  | broken

/-- What a run leaves behind. -/
structure Report where
  ending : Ending
  /-- What was printed. -/
  output : String
  log : List LogEvent

namespace Ending

def exitCode : Ending → UInt32
  | .finished => 0
  | .stopped stop => stop.exitCode
  | .failed _ => 1
  | .broken => 101

/-- The last line of a failed run. -/
def failureLine? : Ending → Option String
  | .failed fault => some ("Error: " ++ fault.describe)
  | .stopped stop => stop.message?.map ("error: " ++ ·)
  | _ => none

/-- How a run ends that cannot start its sieve. -/
def ofFault : Fault → Ending
  | .oversize => .broken
  | fault => .failed fault

end Ending

/-- What is printed where the flags do not ask for a run. -/
def FlagStop.output : FlagStop → String
  | .help => helpText
  | .version => versionText
  | _ => ""

namespace Flags

variable (flags : Flags)

/-- The filter of the events. An unreadable filter counts as `info`, and there is
none where a character was broken. -/
def eventFilter? (env : Environment) (found : Option Config) : Option LogFilter :=
  let configured := (found.map (·.general.logLevel)).getD "info"
  match LogFilter.parse (flags.logFilter env configured) with
  | .ok filter => some filter
  | .error .unreadable => some .fallback
  | .error .brokenCharacter => none

/-- The time at which the run is to be cancelled. -/
def limit : Option Nat := flags.durationSecs.map fun secs => secs.toNat * 1000 * millisecond

end Flags

/-- The decisions that are printed, and the one that cannot be, after which the
sieve is cancelled and left. -/
def Sieve.printable (s : Sieve) (room : Option Nat) : Sieve × List Decision × Option Decision :=
  match room with
  | none =>
    let (s, decisions) := s.drain
    (s, decisions, none)
  | some room =>
    let (s, decisions) := s.take (room + 1)
    match decisions.drop room with
    | refused :: _ => (s.cancel.abandon.settle, decisions.take room, some refused)
    | [] => (s, decisions, none)

/-- The run of a sieve to its end. -/
def runSieve (flags : Flags) (room : Option Nat) (s : Sieve) : Report :=
  let (s, decisions, refused) := { s with limit := flags.limit }.printable room
  let output := String.join (decisions.map (·.line flags.json))
  let timeOver := if s.expired then [LogEvent.timeOver] else []
  let failure := refused.toList.map fun d => .outputFailed (d.outputFault flags.json)
  let finished := s.chain.summaries.map LogEvent.stageFinished
  ⟨.finished, output, timeOver ++ failure ++ finished ++ [.complete decisions.length s]⟩

/-- The run of a configuration that was checked. -/
def runConfig (flags : Flags) (around : Surroundings) (config : Config) : Report :=
  let path := config.load.filePath
  match config.load.sizeOfFile around.files with
  | .error fault => ⟨.failed fault, "", [.unreadable path fault]⟩
  | .ok size =>
    let ready := LogEvent.sourceReady path size
    match Sieve.ofWorkload config around.files around.words with
    | .error fault => ⟨.ofFault fault, "", [ready]⟩
    | .ok s =>
      let report := runSieve flags around.room s
      { report with log := ready :: report.log }

/-- The run of flags and the configuration that was found. -/
def runFlags (flags : Flags) (around : Surroundings) (path : String) (found : Option Config) :
    Report :=
  let opened := LogEvent.configuration path found.isSome
  let config := flags.apply (found.getD .default)
  match config.validate with
  | .error fault => ⟨.failed fault, "", [opened, .invalid fault]⟩
  | .ok () =>
    let warning := if config.boundsCross then [LogEvent.boundsCross config.load] else []
    let report := runConfig flags around config
    { report with log := opened :: warning ++ report.log }

def run (arguments : List String) (around : Surroundings) : Report :=
  match Flags.parse arguments with
  | .error stop => ⟨.stopped stop, stop.output, []⟩
  | .ok flags =>
    let path := flags.configPath around.environment
    match Config.ofFileIfExists around.files path with
    | .error fault => ⟨.failed fault, "", []⟩
    | .ok found =>
      match flags.eventFilter? around.environment found with
      | none => ⟨.broken, "", []⟩
      | some filter =>
        let report := runFlags flags around path found
        { report with log := report.log.filter filter.allows }

end DocSieve
