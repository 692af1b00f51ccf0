import DocSieve.Config.Basic
import DocSieve.Format

/-!
# Reading a configuration

A configuration is read from a value of any format that shows named fields.
What is missing has its default, a whole section as well as one field; fields
that no section knows are skipped.

Key definitions: `Config.read?`.
-/

namespace DocSieve

variable {V : Type} (f : Format V)

open Format

def GeneralConfig.read? (v : V) : Option GeneralConfig :=
  match f.fields ["log_level"] v with
  | some [level] => do
    return ⟨← orDefault f.text GeneralConfig.default.logLevel level⟩
  | _ => none

/-- The names of the settings of what to read, in order. -/
def loadFieldNames : List String :=
  ["file_path", "file_size", "min_text_size", "max_text_size", "id_prefix", "rate_per_sec",
    "buffer_size", "max_documents"]

def LoadConfig.read? (v : V) : Option LoadConfig :=
  match f.fields loadFieldNames v with
  | some [path, size, least, greatest, idPrefix, rate, buffer, limit] => do
    return {
      filePath := ← orDefault f.text LoadConfig.default.filePath path
      fileSize := ← f.optional f.word size
      minTextSize := ← orDefault f.word LoadConfig.default.minTextSize least
      maxTextSize := ← orDefault f.word LoadConfig.default.maxTextSize greatest
      idPrefix := ← orDefault f.text LoadConfig.default.idPrefix idPrefix
      ratePerSec := ← orDefault f.halfWord LoadConfig.default.ratePerSec rate
      bufferSize := ← orDefault f.word LoadConfig.default.bufferSize buffer
      maxDocuments := ← f.optional f.word limit }
  | _ => none

def StageConfig.read? (v : V) : Option StageConfig :=
  match f.fields ["workers", "buffer_size"] v with
  | some [workers, buffer] => do
    return ⟨← orDefault f.word StageConfig.default.workers workers,
      ← orDefault f.word StageConfig.default.bufferSize buffer⟩
  | _ => none

def StagesConfig.read? (v : V) : Option StagesConfig :=
  let stage := orDefault (StageConfig.read? f) StageConfig.default
  match f.fields ["load", "tokenize", "embed", "index"] v with
  | some [load, tokenize, embed, index] => do
    return ⟨← stage load, ← stage tokenize, ← stage embed, ← stage index⟩
  | _ => none

def EmbeddingConfig.read? (v : V) : Option EmbeddingConfig :=
  match f.fields ["dimensions"] v with
  | some [dimensions] => do
    return ⟨← orDefault f.word EmbeddingConfig.default.dimensions dimensions⟩
  | _ => none

def IndexConfig.read? (v : V) : Option IndexConfig :=
  match f.fields ["dedup_threshold", "initial_capacity"] v with
  | some [threshold, capacity] => do
    return ⟨← orDefault f.single IndexConfig.default.threshold threshold,
      ← orDefault f.word IndexConfig.default.initialCapacity capacity⟩
  | _ => none

def ReportConfig.read? (v : V) : Option ReportConfig :=
  match f.fields ["report_interval_secs"] v with
  | some [interval] => do
    return ⟨← orDefault f.word ReportConfig.default.intervalSecs interval⟩
  | _ => none

/-- The configuration of a value. -/
def Config.read? (v : V) : Option Config :=
  match f.fields ["general", "load", "stages", "embedding", "index", "metrics"] v with
  | some [general, load, stages, embedding, index, metrics] => do
    return {
      general := ← orDefault (GeneralConfig.read? f) .default general
      load := ← orDefault (LoadConfig.read? f) .default load
      stages := ← orDefault (StagesConfig.read? f) .default stages
      embedding := ← orDefault (EmbeddingConfig.read? f) .default embedding
      index := ← orDefault (IndexConfig.read? f) .default index
      metrics := ← orDefault (ReportConfig.read? f) .default metrics }
  | _ => none

end DocSieve
