import DocSieve.Fault.Os
import DocSieve.Numeric.Style
import DocSieve.Text.Quoted

/-!
# Faults

What can go wrong, by its cause. A fault is written in two ways: `message` for
a reader, with the area it belongs to in front, and `describe` for the last
line of a failed run, with its text quoted.

Key definitions: `Fault`, `Fault.message`, `Fault.describe`.
-/

namespace DocSieve

/-- Why a configuration is refused. -/
inductive ConfigFault
  /-- The similarity threshold of the configuration is outside (0, 1]. -/
  | threshold (value : Float32)
  /-- The configuration asks for vectors without components. -/
  | noDimensions
  /-- The rate of the configuration is outside one to a thousand million. -/
  | rate (value : UInt32)
  /-- An index was asked for with a threshold outside (0, 1]. -/
  | indexThreshold
  /-- An embedder was asked for with vectors without components. -/
  | embedderDimensions
  /-- The text of a configuration file does not follow its grammar or types. -/
  | notToml
  /-- Another reason, given as text. -/
  | other (text : String)

/-- Why reading or writing fails. -/
inductive IoFault
  /-- The operating system answered with this number. -/
  | os (code : Int)
  /-- A path holds a NUL character, which no file name may. -/
  | nulInPath
  /-- A file that should be text is not valid UTF-8. -/
  | notUtf8
  /-- A fault with a kind and a text of its own. -/
  | custom (kind : IoKind) (text : String)

/-- The causes of failure. -/
inductive Fault
  | config (cause : ConfigFault)
  | io (cause : IoFault)
  /-- One item could not be transformed. -/
  | transform (text : String)
  /-- A value could not be written as or read from its text form. -/
  | serialization (text : String)
  /-- More memory or more queue slots are asked for than can be addressed. -/
  | oversize

namespace ConfigFault

def text : ConfigFault → String
  | .threshold value =>
    "index.dedup_threshold must be in (0.0, 1.0], got " ++ messageStyle.single value
  | .noDimensions => "embedding.dimensions must be at least 1"
  | .rate value => "load.rate_per_sec must be in 1..=1000000000, got " ++ Nat.repr value.toNat
  | .indexThreshold => "deduplication threshold must be between 0.0 and 1.0"
  | .embedderDimensions => "embedding dimensions must be at least 1"
  | .notToml => "TOML"
  | .other text => text

end ConfigFault

namespace IoFault

def kind : IoFault → IoKind
  | .os code => osKind code
  | .nulInPath => .invalidInput
  | .notUtf8 => .invalidData
  | .custom kind _ => kind

def text : IoFault → String
  | .os code => osText code ++ " (os error " ++ Int.repr code ++ ")"
  | .nulInPath => "file name contained an unexpected NUL byte"
  | .notUtf8 => "stream did not contain valid UTF-8"
  | .custom _ text => text

/-- The fault with all its parts. -/
def describe (fault : IoFault) : String :=
  let kind := "kind: " ++ fault.kind.name ++ ", "
  match fault with
  | .os code =>
    "Os \x7b code: " ++ Int.repr code ++ ", " ++ kind ++ "message: " ++ quoted (osText code)
      ++ " \x7d"
  | .custom _ text => "Custom \x7b " ++ kind ++ "error: " ++ quoted text ++ " \x7d"
  | _ => "Error \x7b " ++ kind ++ "message: " ++ quoted fault.text ++ " \x7d"

end IoFault

namespace Fault

/-- The fault for a reader. -/
def message : Fault → String
  | .config cause => "Configuration error: " ++ cause.text
  | .io cause => "I/O error: " ++ cause.text
  | .transform text => "Transform error: " ++ text
  | .serialization text => "Serialization error: " ++ text
  | .oversize => "capacity overflow"

/-- The fault with its text quoted. A file that is no configuration is
described without details. -/
def describe : Fault → String
  | .config .notToml => "Config(TOML)"
  | .config cause => "Config(" ++ quoted cause.text ++ ")"
  | .io cause => "Io(" ++ cause.describe ++ ")"
  | .transform text => "Transform(" ++ quoted text ++ ")"
  | .serialization text => "Serialization(" ++ quoted text ++ ")"
  | .oversize => "capacity overflow"

end Fault

end DocSieve
