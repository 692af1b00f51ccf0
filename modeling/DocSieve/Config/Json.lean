import DocSieve.Config.Reader
import DocSieve.Json.Format
import DocSieve.Text.Record

/-!
# The configuration as JSON and as a description

Key definitions: `Config.toJson`, `Config.ofJson?`, `Config.describe`.
-/

namespace DocSieve

/-- A member that is written only if its value is there. -/
def optionalMember (name : String) : Option UInt64 → List (String × JsonValue)
  | some n => [(name, .ofWord n)]
  | none => []

def LoadConfig.toJson (c : LoadConfig) : JsonValue :=
  .record (
    [("file_path", .ofText c.filePath)] ++ optionalMember "file_size" c.fileSize
      ++ [("min_text_size", .ofWord c.minTextSize), ("max_text_size", .ofWord c.maxTextSize),
        ("id_prefix", .ofText c.idPrefix), ("rate_per_sec", .ofWord c.ratePerSec.toUInt64),
        ("buffer_size", .ofWord c.bufferSize)]
      ++ optionalMember "max_documents" c.maxDocuments)

def LoadConfig.describe (c : LoadConfig) : String :=
  describeRecord "LoadConfig" [("file_path", quoted c.filePath),
    ("file_size", describeOption (c.fileSize.map describeWord)),
    ("min_text_size", describeWord c.minTextSize), ("max_text_size", describeWord c.maxTextSize),
    ("id_prefix", quoted c.idPrefix), ("rate_per_sec", describeWord c.ratePerSec.toUInt64),
    ("buffer_size", describeWord c.bufferSize),
    ("max_documents", describeOption (c.maxDocuments.map describeWord))]

def StageConfig.toJson (c : StageConfig) : JsonValue :=
  .record [("workers", .ofWord c.workers), ("buffer_size", .ofWord c.bufferSize)]

def StageConfig.describe (c : StageConfig) : String :=
  describeRecord "StageSettings" [("workers", describeWord c.workers),
    ("buffer_size", describeWord c.bufferSize)]

def StagesConfig.toJson (c : StagesConfig) : JsonValue :=
  .record [("load", c.load.toJson), ("tokenize", c.tokenize.toJson), ("embed", c.embed.toJson),
    ("index", c.index.toJson)]

def StagesConfig.describe (c : StagesConfig) : String :=
  describeRecord "StagesConfig" [("load", c.load.describe), ("tokenize", c.tokenize.describe),
    ("embed", c.embed.describe), ("index", c.index.describe)]

namespace Config

def toJson (c : Config) : JsonValue :=
  .record [("general", .record [("log_level", .ofText c.general.logLevel)]),
    ("load", c.load.toJson), ("stages", c.stages.toJson),
    ("embedding", .record [("dimensions", .ofWord c.embedding.dimensions)]),
    ("index", .record [("dedup_threshold", .ofSingle c.index.threshold),
      ("initial_capacity", .ofWord c.index.initialCapacity)]),
    ("metrics", .record [("report_interval_secs", .ofWord c.metrics.intervalSecs)])]

def ofJson? (j : JsonValue) : Option Config := Config.read? jsonFormat j

def describe (c : Config) : String :=
  describeRecord "DocPipeConfig" [
    ("general", describeRecord "GeneralConfig" [("log_level", quoted c.general.logLevel)]),
    ("load", c.load.describe), ("stages", c.stages.describe),
    ("embedding", describeRecord "EmbeddingConfig"
      [("dimensions", describeWord c.embedding.dimensions)]),
    ("index", describeRecord "IndexConfig"
      [("dedup_threshold", diagnosticStyle.single c.index.threshold),
        ("initial_capacity", describeWord c.index.initialCapacity)]),
    ("metrics", describeRecord "MetricsConfig"
      [("report_interval_secs", describeWord c.metrics.intervalSecs)])]

end Config

end DocSieve
