import DocSieve.CommandLine.Argument

/-!
# Flags

A flag is given by a long name behind two dashes or by a letter behind one.
Letters can be joined behind one dash as long as only the last one takes an
argument. The argument follows as the next word, behind an equals sign, or, of
a letter, without anything between. No flag may be given twice, and nothing but
flags may be given. A word of two dashes ends the flags.

An argument is looked at only when the next flag, or the end, shows that it is
complete. So a word that is no flag is refused before an argument that is no
number.

Key definitions: `Flags`, `FlagStop`, `Flags.parse`.
-/

namespace DocSieve

/-- What was said on the command line. -/
structure Flags where
  config : Option String
  logLevel : Option String
  file : Option String
  rate : Option UInt32
  threshold : Option Float32
  dimensions : Option UInt64
  maxDocs : Option UInt64
  durationSecs : Option UInt64
  json : Bool

/-- Why the flags do not ask for a run. -/
inductive FlagStop
  /-- The help was asked for. -/
  | help
  /-- The version was asked for. -/
  | version
  /-- A word is no flag, and no argument of one. -/
  | unknown
  /-- A flag was given twice. -/
  | repeated
  /-- The argument of a flag is not there, or an empty path. -/
  | missingArgument
  /-- The argument of a flag is no number of its kind. -/
  | badNumber
  /-- A flag has an argument that takes none. -/
  | needlessArgument
  deriving DecidableEq, Repr

/-- The flags with an argument. -/
inductive Setting
  | config
  | logLevel
  | file
  | rate
  | threshold
  | dimensions
  | maxDocs
  | durationSecs
  deriving DecidableEq, Repr

/-- What a name stands for. -/
inductive FlagName
  | setting (s : Setting)
  | json
  | help
  | version
  deriving DecidableEq, Repr

namespace FlagName

/-- The flag of a long name. -/
def ofLong? : String → Option FlagName
  | "config" => some (.setting .config)
  | "log-level" => some (.setting .logLevel)
  | "file" => some (.setting .file)
  | "rate" => some (.setting .rate)
  | "threshold" => some (.setting .threshold)
  | "dimensions" => some (.setting .dimensions)
  | "max-docs" => some (.setting .maxDocs)
  | "duration-secs" => some (.setting .durationSecs)
  | "json" => some .json
  | "help" => some .help
  | "version" => some .version
  | _ => none

/-- The flag of a letter. -/
def ofLetter? : Char → Option FlagName
  | 'c' => some (.setting .config)
  | 'l' => some (.setting .logLevel)
  | 'f' => some (.setting .file)
  | 'r' => some (.setting .rate)
  | 't' => some (.setting .threshold)
  | 'd' => some (.setting .dimensions)
  | 'n' => some (.setting .maxDocs)
  | 'h' => some .help
  | 'V' => some .version
  | _ => none

end FlagName

def maxHalfWord : Nat := 0xffffffff

def maxWord : Nat := 0xffffffffffffffff

def FlagStop.exitCode : FlagStop → UInt32
  | .help | .version => 0
  | _ => 2

/-- What is wrong, if something is. -/
def FlagStop.message? : FlagStop → Option String
  | .help | .version => none
  | .unknown => some "unexpected argument"
  | .repeated => some "an argument cannot be used multiple times"
  | .missingArgument => some "a value is required for an argument"
  | .badNumber => some "invalid value for an argument"
  | .needlessArgument => some "unexpected value for an argument"

namespace Flags

def empty : Flags := ⟨none, none, none, none, none, none, none, none, false⟩

variable (flags : Flags)

def has : Setting → Bool
  | .config => flags.config.isSome
  | .logLevel => flags.logLevel.isSome
  | .file => flags.file.isSome
  | .rate => flags.rate.isSome
  | .threshold => flags.threshold.isSome
  | .dimensions => flags.dimensions.isSome
  | .maxDocs => flags.maxDocs.isSome
  | .durationSecs => flags.durationSecs.isSome

/-- An argument that was read. -/
def readAs {α : Type} (value : Option α) : Except FlagStop α :=
  match value with
  | some a => .ok a
  | none => .error .badNumber

def word (text : String) : Except FlagStop UInt64 :=
  readAs ((wholeArgument? maxWord text).map UInt64.ofNat)

/-- A path, which is not empty. -/
def path (text : String) : Except FlagStop String :=
  if text.isEmpty then .error .missingArgument else .ok text

/-- The flags with one more. -/
def set (s : Setting) (text : String) : Except FlagStop Flags := do
  if flags.has s then throw .repeated
  match s with
  | .config => return { flags with config := some (← path text) }
  | .logLevel => return { flags with logLevel := some text }
  | .file => return { flags with file := some (← path text) }
  | .rate =>
    let n ← readAs (integerArgument? maxHalfWord text)
    return { flags with rate := some (UInt32.ofNat n) }
  | .threshold => return { flags with threshold := some (← readAs (decimalArgument? text)) }
  | .dimensions => return { flags with dimensions := some (← word text) }
  | .maxDocs => return { flags with maxDocs := some (← word text) }
  | .durationSecs => return { flags with durationSecs := some (← word text) }

end Flags

/-- The flags so far, and the one whose argument may not be complete. -/
structure FlagReader where
  flags : Flags
  pending : Option (Setting × Option String)

namespace FlagReader

variable (r : FlagReader)

/-- The flags with the pending one. -/
def complete : Except FlagStop Flags :=
  match r.pending with
  | some (s, some text) => r.flags.set s text
  | some (_, none) => throw .missingArgument
  | none => pure r.flags

/-- A flag and its argument. -/
def attach (s : Setting) (text : String) : Except FlagStop FlagReader := do
  return ⟨← (← r.complete).set s text, none⟩

/-- A flag whose argument is to come. -/
def await (s : Setting) : Except FlagStop FlagReader := do
  return ⟨← r.complete, some (s, none)⟩

/-- A flag without an argument. -/
def mark (name : FlagName) : Except FlagStop FlagReader := do
  let flags ← r.complete
  match name with
  | .help => throw .help
  | .version => throw .version
  | _ => if flags.json then throw .repeated else return ⟨{ flags with json := true }, none⟩

/-- A long name, with an argument or without. -/
def long (name : String) (argument : Option String) : Except FlagStop FlagReader :=
  match FlagName.ofLong? name, argument with
  | none, _ => throw .unknown
  | some (.setting s), some text => r.attach s text
  | some (.setting s), none => r.await s
  | some _, some _ => throw .needlessArgument
  | some name, none => r.mark name

/-- Letters behind one dash. -/
def letters : List Char → FlagReader → Except FlagStop FlagReader
  | [], r => pure r
  | c :: rest, r =>
    match FlagName.ofLetter? c with
    | none => throw .unknown
    | some (.setting s) =>
      match rest with
      | [] => r.await s
      | '=' :: text | text => r.attach s (String.ofList text)
    | some name => do letters rest (← r.mark name)

/-- One more word. -/
def word (text : String) : Except FlagStop FlagReader :=
  match text.toList with
  | '-' :: '-' :: rest =>
    let (name, argument) := rest.span (· ≠ '=')
    r.long (String.ofList name) (match argument with
      | _ :: argument => some (String.ofList argument)
      | [] => none)
  | '-' :: c :: rest => letters (c :: rest) r
  | _ =>
    match r.pending with
    | some (s, none) => pure { r with pending := some (s, some text) }
    | _ => throw .unknown

def words : List String → FlagReader → Except FlagStop Flags
  | [], r => r.complete
  | ["--"], r => r.complete
  | "--" :: _, _ => throw .unknown
  | text :: rest, r => do words rest (← r.word text)

end FlagReader

def Flags.parse (arguments : List String) : Except FlagStop Flags :=
  FlagReader.words arguments ⟨.empty, none⟩

end DocSieve
