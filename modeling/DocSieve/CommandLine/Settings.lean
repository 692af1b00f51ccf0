import DocSieve.CommandLine.Flags
import DocSieve.Config.Basic

/-!
# What flags, environment and file come to

A flag wins over the environment, the environment over the configuration file,
the file over the defaults.

Key definitions: `Environment`, `Flags.configPath`, `Flags.logFilter`,
`Flags.apply`.
-/

namespace DocSieve

/-- The variables of the environment that count. -/
structure Environment where
  /-- The path of the configuration file. -/
  configPath : Option String
  /-- The log filter. -/
  logFilter : Option String

/-- The name of the variable for the configuration file. -/
def configVariable : String := "DOCPIPE_CONFIG"

/-- The name of the variable for the log filter. -/
def logVariable : String := "RUST_LOG"

/-- The configuration file where nothing is said. -/
def defaultConfigPath : String := "docpipe.toml"

namespace Flags

variable (flags : Flags)

def configPath (env : Environment) : String :=
  (flags.config.or env.configPath).getD defaultConfigPath

/-- The log filter, where a configuration has one. An empty variable says
nothing. -/
def logFilter (env : Environment) (configured : String) : String :=
  (flags.logLevel.or (env.logFilter.filter (!·.isEmpty))).getD configured

/-- The general settings with what the flags say. -/
def applyGeneral (c : GeneralConfig) : GeneralConfig :=
  { c with logLevel := flags.logLevel.getD c.logLevel }

/-- What to read with what the flags say. The size of a file is forgotten where
another one is read. -/
def applyLoad (c : LoadConfig) : LoadConfig :=
  { c with
    filePath := flags.file.getD c.filePath
    fileSize := if flags.file.isSome then none else c.fileSize
    ratePerSec := flags.rate.getD c.ratePerSec
    maxDocuments := flags.maxDocs.or c.maxDocuments }

/-- The configuration with what the flags say. -/
def apply (c : Config) : Config :=
  { c with
    general := flags.applyGeneral c.general
    load := flags.applyLoad c.load
    embedding := ⟨flags.dimensions.getD c.embedding.dimensions⟩
    index := { c.index with threshold := flags.threshold.getD c.index.threshold } }

end Flags

end DocSieve
