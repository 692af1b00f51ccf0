import DocSieve.Fault.Basic

/-!
# The configuration

All sizes and limits of a run, in sections. Every value has a default.

Key definitions: `Config`, `Config.default`, `Config.validate`.
-/

namespace DocSieve

/-- General settings. -/
structure GeneralConfig where
  logLevel : String
  deriving DecidableEq, Repr

/-- What to read and how fast. -/
structure LoadConfig where
  filePath : String
  /-- The size of the file, found out if absent. -/
  fileSize : Option UInt64
  minTextSize : UInt64
  maxTextSize : UInt64
  idPrefix : String
  ratePerSec : UInt32
  bufferSize : UInt64
  /-- The number of documents, without limit if absent. -/
  maxDocuments : Option UInt64
  deriving DecidableEq, Repr

/-- The size of one stage. -/
structure StageConfig where
  workers : UInt64
  bufferSize : UInt64
  deriving DecidableEq, Repr

/-- The sizes of the stages. -/
structure StagesConfig where
  load : StageConfig
  tokenize : StageConfig
  embed : StageConfig
  index : StageConfig
  deriving DecidableEq, Repr

/-- Settings of the vectors. -/
structure EmbeddingConfig where
  dimensions : UInt64
  deriving DecidableEq, Repr

/-- Settings of the index. -/
structure IndexConfig where
  threshold : Float32
  initialCapacity : UInt64
  deriving BEq

/-- Settings of the regular report of counts. -/
structure ReportConfig where
  /-- Seconds between two reports, none if zero. -/
  intervalSecs : UInt64
  deriving DecidableEq, Repr

/-- The configuration. -/
structure Config where
  general : GeneralConfig
  load : LoadConfig
  stages : StagesConfig
  embedding : EmbeddingConfig
  index : IndexConfig
  metrics : ReportConfig
  deriving BEq

def GeneralConfig.default : GeneralConfig := ⟨"info"⟩

def LoadConfig.default : LoadConfig where
  filePath := "data/shakespeare.txt"
  fileSize := none
  minTextSize := 1000
  maxTextSize := 20000
  idPrefix := "doc"
  ratePerSec := 1000
  bufferSize := 100
  maxDocuments := none

def StageConfig.default : StageConfig := ⟨10, 100⟩

def StagesConfig.default : StagesConfig := ⟨.default, .default, .default, .default⟩

def EmbeddingConfig.default : EmbeddingConfig := ⟨1024⟩

def IndexConfig.default : IndexConfig := ⟨0.8, 1024⟩

def ReportConfig.default : ReportConfig := ⟨10⟩

namespace Config

/-- The configuration where nothing is said. -/
def default : Config := ⟨.default, .default, .default, .default, .default, .default⟩

/-- The greatest number of requests per second: one per nanosecond. -/
def maxRate : UInt32 := 1000000000

variable (c : Config)

/-- The configuration can be run; the threshold is looked at first, then the
dimensions, then the rate. -/
def validate : Except Fault Unit := do
  let threshold := c.index.threshold
  if !(threshold > 0.0 && threshold ≤ 1.0) then throw (.config (.threshold threshold))
  if c.embedding.dimensions = 0 then throw (.config .noDimensions)
  let rate := c.load.ratePerSec
  if rate = 0 || rate > maxRate then throw (.config (.rate rate))

/-- The bounds of the sizes are out of order, so that only the lower one
counts. This is worth a warning. -/
def boundsCross : Bool := c.load.minTextSize > c.load.maxTextSize

end Config

end DocSieve
