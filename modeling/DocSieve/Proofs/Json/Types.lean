import DocSieve.Config.Json
import DocSieve.Document.Json
import DocSieve.Metrics.Json
import DocSieve.Proofs.Json.Single

/-!
# The records of a run, written and read again

What holds texts and integers is always read back as it was written: names, escapes,
nesting and fields that are left out never stand in the way. What holds single-precision
numbers is read back just when they are finite; one that is not is written as null. The
mean in the counts of a stage has double precision, and there it depends on its own text
whether it is read as the same number (`written_reads_back`).

Key theorems: `written_reads_back`.
-/

namespace DocSieve

open JsonValue

/-! ### Texts and integers -/

theorem Request.readsBack (r : Request) : ReadsBack toJson ofJson? r := by
  have proper : r.toJson.Proper := by simp [toJson]
  have fields : r.toJson.fields ["id", "file_path", "offset", "text_size"]
      = some [some (ofText r.id), some (ofText r.path), some (ofWord r.offset),
        some (ofWord r.size)] := fields_record rfl (by decide) rfl
  rw [readsBack_iff proper, ofJson?, fields]
  simp

theorem Document.readsBack (d : Document) : ReadsBack toJson ofJson? d := by
  have proper : d.toJson.Proper := proper_record (by simp)
  have fields : d.toJson.fields ["id", "text"] = some [some (ofText d.id), some (ofText d.text)] :=
    fields_record rfl (by decide) rfl
  rw [readsBack_iff proper, ofJson?, fields]
  simp

@[simp]
theorem Token.proper_toJson (t : Token) : t.toJson.Proper :=
  proper_record (by simp)

theorem Token.ofJson?_toJson (t : Token) : ofJson? t.toJson = some t := by
  rw [ofJson?, toJson, fields_singleton]
  simp

theorem Token.readsBack (t : Token) : ReadsBack toJson ofJson? t :=
  (readsBack_iff t.proper_toJson).mpr t.ofJson?_toJson

theorem TokenizedDocument.readsBack (d : TokenizedDocument) : ReadsBack toJson ofJson? d := by
  have proper : d.toJson.Proper :=
    proper_record (by simp [proper_map])
  have fields : d.toJson.fields ["id", "tokens"]
      = some [some (ofText d.id), some (.array (d.tokens.map Token.toJson))] :=
    fields_record rfl (by decide) rfl
  have tokens : (array (d.tokens.map Token.toJson)).items? Token.ofJson? = some d.tokens :=
    items?_map_eq_some_iff.mpr fun t _ => t.ofJson?_toJson
  rw [readsBack_iff proper, ofJson?, fields]
  simp [tokens]

/-! ### Real numbers -/

theorem EmbeddedDocument.proper_toJson (d : EmbeddedDocument) : d.toJson.Proper :=
  proper_record (by simp [proper_map])

theorem EmbeddedDocument.fields_toJson (d : EmbeddedDocument) :
    d.toJson.fields ["id", "embedding"]
      = some [some (ofText d.id), some (.array (d.embedding.toList.map ofSingle))] :=
  fields_record rfl (by decide) rfl

theorem EmbeddedDocument.readsBack_iff (d : EmbeddedDocument) :
    ReadsBack toJson ofJson? d ↔ ∀ x ∈ d.embedding, x.isFinite = true := by
  have components : (array (d.embedding.toList.map ofSingle)).items? single?
      = some d.embedding.toList ↔ ∀ x ∈ d.embedding, x.isFinite = true := by
    simp only [items?_map_eq_some_iff, single?_ofSingle_iff, Array.mem_toList_iff]
  rw [DocSieve.readsBack_iff d.proper_toJson, ofJson?, d.fields_toJson, ← components]
  obtain ⟨id, embedding⟩ := d
  simp [Option.bind_eq_some_iff, List.toArray_eq_iff]

theorem Decision.proper_toJson (d : Decision) : d.toJson.Proper :=
  proper_record (by simp [Proper.bool])

theorem Decision.fields_toJson (d : Decision) :
    d.toJson.fields ["id", "is_duplicate", "nearest_id", "similarity"]
      = some [some (ofText d.id), some (.bool d.isDuplicate), some (ofText d.nearestId),
        some (ofSingle d.similarity)] :=
  fields_record rfl (by decide) rfl

theorem Decision.readsBack_iff (d : Decision) :
    ReadsBack toJson ofJson? d ↔ d.similarity.isFinite = true := by
  rw [DocSieve.readsBack_iff d.proper_toJson, ofJson?, d.fields_toJson, ← single?_ofSingle_iff]
  obtain ⟨id, isDuplicate, nearestId, similarity⟩ := d
  simp [bool?, Option.bind_eq_some_iff]

theorem StageSnapshot.readsBack_iff (s : StageSnapshot) :
    ReadsBack toJson ofJson? s ↔ ReadsBack ofDouble double? s.meanLatencyMs := by
  have proper : s.toJson.Proper :=
    proper_record (by simp [proper_map])
  have fields : s.toJson.fields
      ["processed", "errors", "delivered", "mean_latency_ms", "latency_buckets"]
      = some [some (ofWord s.processed), some (ofWord s.errors), some (ofWord s.delivered),
        some (ofDouble s.meanLatencyMs), some (.array (s.latencyBuckets.map ofWord))] :=
    fields_record rfl (by decide) rfl
  have buckets : (array (s.latencyBuckets.map ofWord)).items? word? = some s.latencyBuckets :=
    items?_map_eq_some_iff.mpr fun n _ => word?_ofWord n
  rw [DocSieve.readsBack_iff proper, ofJson?, fields,
    DocSieve.readsBack_iff (proper_ofDouble _)]
  obtain ⟨processed, errors, delivered, meanLatencyMs, latencyBuckets⟩ := s
  simp [buckets, Option.bind_eq_some_iff]

/-! ### The configuration -/

@[simp]
theorem jsonFormat_fields : jsonFormat.fields = JsonValue.fields := rfl

@[simp]
theorem jsonFormat_word : jsonFormat.word = word? := rfl

@[simp]
theorem jsonFormat_single : jsonFormat.single = single? := rfl

@[simp]
theorem jsonFormat_text : jsonFormat.text = text? := rfl

@[simp]
theorem halfWord_ofWord (n : UInt32) : jsonFormat.halfWord (ofWord n.toUInt64) = some n := by
  simp [Format.halfWord, n.toNat_lt_size]

/-- A field that may be missing is missing again when it was left out. -/
@[simp]
theorem optional_ofWord (n : Option UInt64) :
    jsonFormat.optional word? (n.map ofWord) = some n := by
  cases n with
  | none => rfl
  | some n =>
    have there : jsonFormat.isNull (ofWord n) = false := rfl
    simp [Format.optional, there]

theorem GeneralConfig.read?_record (c : GeneralConfig) :
    read? jsonFormat (record [("log_level", ofText c.logLevel)]) = some c := by
  rw [read?, jsonFormat_fields, fields_singleton]
  simp [Format.orDefault]

@[simp]
theorem LoadConfig.proper_toJson (c : LoadConfig) : c.toJson.Proper := by
  refine proper_record ?_
  obtain ⟨filePath, fileSize, _, _, _, _, _, maxDocuments⟩ := c
  cases fileSize <;> cases maxDocuments <;> simp [optionalMember]

@[simp]
theorem LoadConfig.read?_toJson (c : LoadConfig) : read? jsonFormat c.toJson = some c := by
  have fields : c.toJson.fields loadFieldNames
      = some [some (ofText c.filePath), c.fileSize.map ofWord, some (ofWord c.minTextSize),
        some (ofWord c.maxTextSize), some (ofText c.idPrefix),
        some (ofWord c.ratePerSec.toUInt64), some (ofWord c.bufferSize),
        c.maxDocuments.map ofWord] := by
    refine fields_record ?_ (by decide) rfl
    obtain ⟨filePath, fileSize, _, _, _, _, _, maxDocuments⟩ := c
    cases fileSize <;> cases maxDocuments <;> rfl
  rw [read?, jsonFormat_fields, fields]
  simp [Format.orDefault]

@[simp]
theorem StageConfig.proper_toJson (c : StageConfig) : c.toJson.Proper :=
  proper_record (by simp)

@[simp]
theorem StageConfig.read?_toJson (c : StageConfig) : read? jsonFormat c.toJson = some c := by
  have fields : c.toJson.fields ["workers", "buffer_size"]
      = some [some (ofWord c.workers), some (ofWord c.bufferSize)] :=
    fields_record rfl (by decide) rfl
  rw [read?, jsonFormat_fields, fields]
  simp [Format.orDefault]

@[simp]
theorem StagesConfig.proper_toJson (c : StagesConfig) : c.toJson.Proper :=
  proper_record (by simp)

@[simp]
theorem StagesConfig.read?_toJson (c : StagesConfig) : read? jsonFormat c.toJson = some c := by
  have fields : c.toJson.fields ["load", "tokenize", "embed", "index"]
      = some [some c.load.toJson, some c.tokenize.toJson, some c.embed.toJson,
        some c.index.toJson] := fields_record rfl (by decide) rfl
  rw [read?, jsonFormat_fields, fields]
  simp [Format.orDefault]

theorem EmbeddingConfig.read?_record (c : EmbeddingConfig) :
    read? jsonFormat (record [("dimensions", ofWord c.dimensions)]) = some c := by
  rw [read?, jsonFormat_fields, fields_singleton]
  simp [Format.orDefault]

theorem ReportConfig.read?_record (c : ReportConfig) :
    read? jsonFormat (record [("report_interval_secs", ofWord c.intervalSecs)]) = some c := by
  rw [read?, jsonFormat_fields, fields_singleton]
  simp [Format.orDefault]

theorem IndexConfig.read?_record_eq_some_iff (c : IndexConfig) :
    read? jsonFormat (record [("dedup_threshold", ofSingle c.threshold),
      ("initial_capacity", ofWord c.initialCapacity)]) = some c
      ↔ c.threshold.isFinite = true := by
  have fields : (record [("dedup_threshold", ofSingle c.threshold),
      ("initial_capacity", ofWord c.initialCapacity)]).fields
      ["dedup_threshold", "initial_capacity"]
      = some [some (ofSingle c.threshold), some (ofWord c.initialCapacity)] :=
    fields_record rfl (by decide) rfl
  rw [read?, jsonFormat_fields, fields, ← single?_ofSingle_iff]
  obtain ⟨threshold, capacity⟩ := c
  simp [Format.orDefault, Option.bind_eq_some_iff]

theorem Config.proper_toJson (c : Config) : c.toJson.Proper := by simp [toJson]

theorem Config.fields_toJson (c : Config) :
    c.toJson.fields ["general", "load", "stages", "embedding", "index", "metrics"]
      = some [some (record [("log_level", ofText c.general.logLevel)]), some c.load.toJson,
        some c.stages.toJson, some (record [("dimensions", ofWord c.embedding.dimensions)]),
        some (record [("dedup_threshold", ofSingle c.index.threshold),
          ("initial_capacity", ofWord c.index.initialCapacity)]),
        some (record [("report_interval_secs", ofWord c.metrics.intervalSecs)])] :=
  fields_record rfl (by decide) rfl

theorem Config.readsBack_iff (c : Config) :
    ReadsBack toJson ofJson? c ↔ c.index.threshold.isFinite = true := by
  rw [DocSieve.readsBack_iff c.proper_toJson, ofJson?, read?, jsonFormat_fields, c.fields_toJson]
  obtain ⟨general, load, stages, embedding, index, metrics⟩ := c
  simp [Format.orDefault, GeneralConfig.read?_record, EmbeddingConfig.read?_record,
    ReportConfig.read?_record, IndexConfig.read?_record_eq_some_iff, Option.bind_eq_some_iff]

/-- **What is written is read back**: a request, a document, a term and the terms of a
document always; an embedded document, a decision and a configuration just when the numbers
in them are finite; and the counts of a stage just when their mean is read back. -/
theorem written_reads_back :
    (∀ r, ReadsBack Request.toJson Request.ofJson? r) ∧
    (∀ d, ReadsBack Document.toJson Document.ofJson? d) ∧
    (∀ t, ReadsBack Token.toJson Token.ofJson? t) ∧
    (∀ d, ReadsBack TokenizedDocument.toJson TokenizedDocument.ofJson? d) ∧
    (∀ d, ReadsBack EmbeddedDocument.toJson EmbeddedDocument.ofJson? d ↔
      ∀ x ∈ d.embedding, x.isFinite = true) ∧
    (∀ d, ReadsBack Decision.toJson Decision.ofJson? d ↔ d.similarity.isFinite = true) ∧
    (∀ s, ReadsBack StageSnapshot.toJson StageSnapshot.ofJson? s ↔
      ReadsBack ofDouble double? s.meanLatencyMs) ∧
    (∀ c, ReadsBack Config.toJson Config.ofJson? c ↔ c.index.threshold.isFinite = true) :=
  ⟨Request.readsBack, Document.readsBack, Token.readsBack, TokenizedDocument.readsBack,
    EmbeddedDocument.readsBack_iff, Decision.readsBack_iff, StageSnapshot.readsBack_iff,
    Config.readsBack_iff⟩

/-- Numbers below and above zero, a third, and the default threshold are read back. -/
theorem written_reads_back_fractions :
    ReadsBack EmbeddedDocument.toJson EmbeddedDocument.ofJson? ⟨"doc-0", #[0.6, -0.8]⟩ ∧
    ReadsBack Decision.toJson Decision.ofJson? ⟨"doc-1", true, "doc-0", 0.96⟩ ∧
    ReadsBack StageSnapshot.toJson StageSnapshot.ofJson? ⟨3, 0, 3, 1.0 / 3.0, [2, 1]⟩ ∧
    ReadsBack Config.toJson Config.ofJson? .default := by
  obtain ⟨-, -, -, -, embedded, decision, stage, config⟩ := written_reads_back
  exact ⟨(embedded _).mpr (by decide), (decision _).mpr (by decide),
    (stage _).mpr ((readsBack_double_iff _).mpr (by decide +kernel)), (config _).mpr (by decide)⟩

/-- A finite mean need not be read back: the digits of an eleventh do not fit the
significand, so that the reader rounds twice. -/
example : ¬ ReadsBack ofDouble double? (1.0 / 11.0) := by
  rw [readsBack_double_iff]
  decide +kernel

end DocSieve
