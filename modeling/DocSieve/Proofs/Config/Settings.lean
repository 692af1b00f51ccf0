import DocSieve.CommandLine.Run
import Mathlib

/-!
# The configuration of a run

A configuration is known by its fields (`Config.ext_fields`). A field has a place in a
document, a way to be read, and perhaps a flag. What a run is configured with is said of
any field at once: the value of the flag, or else that of the document, or else the default
(`Flags.effective_configuration`). Sections are read one by one,
for each has a reader of its own, and their defaults are those of their fields; from then on
there are only fields (`Config.get_ofTomlValue?`, `Field.get_apply`). The one field that is
cleared and not set, the size of the file, counts as one with a flag that says nothing is
known.

Key definitions: `Field`, `Field.effective`, `TomlValue.at?`, `TomlValue.WellTyped`,
`Config.ofFields`, `Config.Holds`.
Key theorems: `Config.get_ofTomlValue?`, `Field.get_apply`, `Flags.effective_configuration`.
-/

namespace DocSieve

/-! ### Values -/

namespace TomlValue

def IsTable : TomlValue → Prop
  | .table _ _ => True
  | _ => False

def IsText : TomlValue → Prop
  | .string _ => True
  | _ => False

/-- The value is a natural number below a bound. -/
def IsNaturalBelow (bound : Int) : TomlValue → Prop
  | .integer n => 0 ≤ n ∧ n < bound
  | _ => False

def IsNumber : TomlValue → Prop
  | .float _ | .integer _ => True
  | _ => False

variable {v : TomlValue}

instance : Decidable v.IsTable := by
  unfold IsTable
  split <;> infer_instance

instance : Decidable v.IsText := by
  unfold IsText
  split <;> infer_instance

instance (bound : Int) : Decidable (v.IsNaturalBelow bound) := by
  unfold IsNaturalBelow
  split <;> infer_instance

instance : Decidable v.IsNumber := by
  unfold IsNumber
  split <;> infer_instance

theorem IsTable.exists_eq (h : v.IsTable) : ∃ origin members, v = .table origin members := by
  cases v with
  | table origin members => exact ⟨origin, members, rfl⟩
  | _ => cases h

theorem IsNaturalBelow.exists_eq {bound : Int} (h : v.IsNaturalBelow bound) :
    ∃ n, v = .integer n ∧ 0 ≤ n ∧ n < bound := by
  cases v with
  | integer n => exact ⟨n, rfl, h⟩
  | _ => cases h

/-- The value at the end of names that lead through tables. -/
def at? : List String → TomlValue → Option TomlValue
  | [], v => some v
  | name :: path, .table _ members => (members.lookup name).bind (at? path)
  | _ :: _, _ => none

theorem at?_append (path path' : List String) (v : TomlValue) :
    v.at? (path ++ path') = (v.at? path).bind (at? path') := by
  induction path generalizing v with
  | nil => rfl
  | cons name path ih =>
    cases v with
    | table origin members =>
      simp only [List.cons_append, at?, Option.bind_assoc, funext (ih ·)]
    | _ => rfl

theorem at?_singleton (name : String) (origin : TableOrigin) (members : List (String × TomlValue)) :
    at? [name] (.table origin members) = members.lookup name := by
  rw [at?]
  cases members.lookup name <;> rfl

end TomlValue

/-! ### Fields -/

/-- What a field holds. -/
inductive Kind : Type → Type
  | text : Kind String
  | word : Kind UInt64
  | halfWord : Kind UInt32
  | single : Kind Float32
  /-- A number that need not be there. -/
  | optionalWord : Kind (Option UInt64)

namespace Kind

variable {α : Type}

/-- The value of a key. -/
def read : Kind α → TomlValue → Option α
  | .text => tomlFormat.text
  | .word => tomlFormat.word
  | .halfWord => tomlFormat.halfWord
  | .single => tomlFormat.single
  | .optionalWord => fun v => (tomlFormat.word v).map some

/-- The value is of the type of the field, and fits. -/
def Admits : Kind α → TomlValue → Prop
  | .text => TomlValue.IsText
  | .word | .optionalWord => TomlValue.IsNaturalBelow (2 ^ 63)
  | .halfWord => TomlValue.IsNaturalBelow (2 ^ 32)
  | .single => TomlValue.IsNumber

instance (kind : Kind α) (v : TomlValue) : Decidable (kind.Admits v) := by
  unfold Admits
  split <;> infer_instance

theorem isSome_read {kind : Kind α} {v : TomlValue} (h : kind.Admits v) :
    (kind.read v).isSome = true := by
  cases kind with
  | text => cases v <;> first | rfl | cases h
  | single => cases v <;> first | rfl | cases h
  | word | optionalWord =>
    obtain ⟨n, rfl, natural, -⟩ := h.exists_eq
    simp [read, tomlFormat, TomlValue.word?, natural]
  | halfWord =>
    obtain ⟨n, rfl, natural, below⟩ := h.exists_eq
    have small : (UInt64.ofNat n.toNat).toNat < UInt32.size := by
      rw [UInt64.toNat_ofNat_of_lt' (by simp only [UInt64.size]; omega), UInt32.size]
      omega
    simp only [read, Format.halfWord, tomlFormat, TomlValue.word?, if_pos natural,
      Option.bind_eq_bind, Option.bind_some, if_pos small, Option.isSome_some]

end Kind

/-- The stages, as a document names them. -/
inductive StageKey
  | load
  | tokenize
  | embed
  | index

namespace StageKey

def name : StageKey → String
  | .load => "load"
  | .tokenize => "tokenize"
  | .embed => "embed"
  | .index => "index"

/-- The size of a stage. -/
def get : StageKey → StagesConfig → StageConfig
  | .load => StagesConfig.load
  | .tokenize => StagesConfig.tokenize
  | .embed => StagesConfig.embed
  | .index => StagesConfig.index

end StageKey

/-- A field of the configuration. -/
inductive Field : Type → Type
  | logLevel : Field String
  | filePath : Field String
  | fileSize : Field (Option UInt64)
  | minTextSize : Field UInt64
  | maxTextSize : Field UInt64
  | idPrefix : Field String
  | ratePerSec : Field UInt32
  | loadBuffer : Field UInt64
  | maxDocuments : Field (Option UInt64)
  | workers (stage : StageKey) : Field UInt64
  | stageBuffer (stage : StageKey) : Field UInt64
  | dimensions : Field UInt64
  | threshold : Field Float32
  | initialCapacity : Field UInt64
  | interval : Field UInt64

namespace Field

variable {α : Type}

def kind : Field α → Kind α
  | .logLevel | .filePath | .idPrefix => .text
  | .fileSize | .maxDocuments => .optionalWord
  | .ratePerSec => .halfWord
  | .threshold => .single
  | .minTextSize | .maxTextSize | .loadBuffer | .workers _ | .stageBuffer _ | .dimensions
  | .initialCapacity | .interval => .word

/-- The names that lead to the table of the field. -/
def table : Field α → List String
  | .logLevel => ["general"]
  | .filePath | .fileSize | .minTextSize | .maxTextSize | .idPrefix | .ratePerSec | .loadBuffer
  | .maxDocuments => ["load"]
  | .workers stage | .stageBuffer stage => ["stages", stage.name]
  | .dimensions => ["embedding"]
  | .threshold | .initialCapacity => ["index"]
  | .interval => ["metrics"]

def key : Field α → String
  | .logLevel => "log_level"
  | .filePath => "file_path"
  | .fileSize => "file_size"
  | .minTextSize => "min_text_size"
  | .maxTextSize => "max_text_size"
  | .idPrefix => "id_prefix"
  | .ratePerSec => "rate_per_sec"
  | .loadBuffer | .stageBuffer _ => "buffer_size"
  | .maxDocuments => "max_documents"
  | .workers _ => "workers"
  | .dimensions => "dimensions"
  | .threshold => "dedup_threshold"
  | .initialCapacity => "initial_capacity"
  | .interval => "report_interval_secs"

def get : Field α → Config → α
  | .logLevel => (·.general.logLevel)
  | .filePath => (·.load.filePath)
  | .fileSize => (·.load.fileSize)
  | .minTextSize => (·.load.minTextSize)
  | .maxTextSize => (·.load.maxTextSize)
  | .idPrefix => (·.load.idPrefix)
  | .ratePerSec => (·.load.ratePerSec)
  | .loadBuffer => (·.load.bufferSize)
  | .maxDocuments => (·.load.maxDocuments)
  | .workers stage => fun c => (stage.get c.stages).workers
  | .stageBuffer stage => fun c => (stage.get c.stages).bufferSize
  | .dimensions => (·.embedding.dimensions)
  | .threshold => (·.index.threshold)
  | .initialCapacity => (·.index.initialCapacity)
  | .interval => (·.metrics.intervalSecs)

/-- What the flags say of the field. The size of a file is not known where the flags name
the file. -/
def flag : Field α → Flags → Option α
  | .logLevel => (·.logLevel)
  | .filePath => (·.file)
  | .fileSize => fun flags => flags.file.map fun _ => none
  | .ratePerSec => (·.rate)
  | .maxDocuments => fun flags => flags.maxDocs.map some
  | .dimensions => (·.dimensions)
  | .threshold => (·.threshold)
  | .minTextSize | .maxTextSize | .idPrefix | .loadBuffer | .workers _ | .stageBuffer _
  | .initialCapacity | .interval => fun _ => none

end Field

namespace Config

/-- The configuration with these fields. -/
def ofFields (value : {α : Type} → Field α → α) : Config where
  general := ⟨value .logLevel⟩
  load := ⟨value .filePath, value .fileSize, value .minTextSize, value .maxTextSize,
    value .idPrefix, value .ratePerSec, value .loadBuffer, value .maxDocuments⟩
  stages := ⟨⟨value (.workers .load), value (.stageBuffer .load)⟩,
    ⟨value (.workers .tokenize), value (.stageBuffer .tokenize)⟩,
    ⟨value (.workers .embed), value (.stageBuffer .embed)⟩,
    ⟨value (.workers .index), value (.stageBuffer .index)⟩⟩
  embedding := ⟨value .dimensions⟩
  index := ⟨value .threshold, value .initialCapacity⟩
  metrics := ⟨value .interval⟩

theorem get_ofFields (value : {α : Type} → Field α → α) {α : Type} (field : Field α) :
    field.get (ofFields value) = value field := by
  cases field with
  | workers stage | stageBuffer stage => cases stage <;> rfl
  | _ => rfl

theorem ext_fields {c c' : Config}
    (h : ∀ {α : Type} (field : Field α), field.get c = field.get c') : c = c' := by
  have fields : (fun {α : Type} (field : Field α) => field.get c)
      = fun {α} field => field.get c' := by
    funext α field
    exact h field
  exact congrArg (fun value : (α : Type) → Field α → α => ofFields (value _)) fields

end Config

/-! ### Flags -/

/-- A flag decides on its own field and on no other. -/
theorem Field.get_apply {α : Type} (field : Field α) (flags : Flags) (c : Config) :
    field.get (flags.apply c) = (field.flag flags).getD (field.get c) := by
  cases field with
  | fileSize => cases h : flags.file <;> simp [get, flag, Flags.apply, Flags.applyLoad, h]
  | maxDocuments => cases h : flags.maxDocs <;> simp [get, flag, Flags.apply, Flags.applyLoad, h]
  | _ => rfl

/-- Flags that were applied have nothing more to change. -/
theorem Flags.apply_apply (flags : Flags) (c : Config) :
    flags.apply (flags.apply c) = flags.apply c := by
  refine Config.ext_fields fun field => ?_
  rw [field.get_apply, field.get_apply]
  cases field.flag flags <;> rfl

/-! ### Documents -/

namespace TomlValue

/-- What leads to a field is a table, and the value of a field is of its type. Nothing is
asked of other names, and none has to be there. -/
structure WellTyped (v : TomlValue) : Prop where
  tables : ∀ {α : Type} (field : Field α), ∀ path ∈ field.table.inits, ∀ t ∈ v.at? path, t.IsTable
  values : ∀ {α : Type} (field : Field α),
    ∀ x ∈ v.at? (field.table ++ [field.key]), field.kind.Admits x

end TomlValue

namespace Field

variable {α : Type} (field : Field α)

/-- What a document says of the field. -/
def given (doc : TomlValue) : Option α :=
  (doc.at? (field.table ++ [field.key])).bind field.kind.read

/-- The value of the field that flags, document and default come to. -/
def effective (flags : Flags) (doc : Option TomlValue) : α :=
  (field.flag flags).getD ((doc.bind field.given).getD (field.get .default))

end Field

/-! ### Reading, section by section -/

section Reading

open Format

variable {doc : TomlValue}

/-- What the document says of a field, or else its default. -/
def Field.read {α : Type} (field : Field α) (doc : TomlValue) : α :=
  (field.given doc).getD (field.get .default)

theorem Field.read_of_absent {α : Type} (field : Field α) (h : doc.at? field.table = none) :
    field.read doc = field.get .default := by
  rw [read, given, TomlValue.at?_append, h]
  rfl

theorem tomlFormat_fields (names : List String) (origin : TableOrigin)
    (members : List (String × TomlValue)) :
    tomlFormat.fields names (.table origin members) = some (names.map (members.lookup ·)) := rfl

namespace TomlValue.WellTyped

theorem orDefault_lookup (typed : doc.WellTyped) {α : Type} (field : Field α) {origin : TableOrigin}
    {members : List (String × TomlValue)} (h : doc.at? field.table = some (.table origin members)) :
    orDefault field.kind.read (field.get .default) (members.lookup field.key)
      = some (field.read doc) := by
  have found : doc.at? (field.table ++ [field.key]) = members.lookup field.key := by
    rw [at?_append, h, Option.bind_some, at?_singleton]
  have admits := typed.values field
  rw [Field.read, Field.given]
  rw [found] at admits ⊢
  cases h : members.lookup field.key with
  | none => rfl
  | some x =>
    obtain ⟨value, eq⟩ := Option.isSome_iff_exists.mp (Kind.isSome_read (admits x h))
    simp [orDefault, eq]

theorem optional_lookup (typed : doc.WellTyped) (field : Field (Option UInt64))
    (kind : field.kind = .optionalWord) (absent : field.get .default = none) {origin : TableOrigin}
    {members : List (String × TomlValue)} (h : doc.at? field.table = some (.table origin members)) :
    tomlFormat.optional tomlFormat.word (members.lookup field.key) = some (field.read doc) := by
  rw [← typed.orDefault_lookup field h, kind, absent]
  cases members.lookup field.key <;> rfl

theorem orDefault_section {S : Type} {read : TomlValue → Option S} {absent : S} {path : List String}
    {value : S} (typed : doc.WellTyped) (missing : doc.at? path = none → absent = value)
    (table : ∀ origin members, doc.at? path = some (.table origin members) →
      read (.table origin members) = some value)
    {α : Type} (field : Field α) (leads : path ∈ field.table.inits) :
    orDefault read absent (doc.at? path) = some value := by
  cases h : doc.at? path with
  | none => exact congrArg some (missing h)
  | some t =>
    obtain ⟨origin, members, rfl⟩ := (typed.tables field path leads t h).exists_eq
    exact table origin members h

theorem read_general (typed : doc.WellTyped) :
    orDefault (GeneralConfig.read? tomlFormat) .default (doc.at? ["general"])
      = some (Config.ofFields (·.read doc)).general := by
  refine typed.orDefault_section (fun h => ?_) (fun origin members h => ?_) .logLevel (by decide)
  · simp only [Config.ofFields, Field.read_of_absent .logLevel h]
    rfl
  · have level : orDefault tomlFormat.text GeneralConfig.default.logLevel
        (members.lookup "log_level") = some (Field.logLevel.read doc) :=
      typed.orDefault_lookup .logLevel h
    simp only [GeneralConfig.read?, tomlFormat_fields, List.map_cons, List.map_nil, level]
    rfl

theorem read_load (typed : doc.WellTyped) :
    orDefault (LoadConfig.read? tomlFormat) .default (doc.at? ["load"])
      = some (Config.ofFields (·.read doc)).load := by
  refine typed.orDefault_section (fun h => ?_) (fun origin members h => ?_) .filePath (by decide)
  · simp only [Config.ofFields, Field.read_of_absent .filePath h, Field.read_of_absent .fileSize h,
      Field.read_of_absent .minTextSize h, Field.read_of_absent .maxTextSize h,
      Field.read_of_absent .idPrefix h, Field.read_of_absent .ratePerSec h,
      Field.read_of_absent .loadBuffer h, Field.read_of_absent .maxDocuments h]
    rfl
  · have path : orDefault tomlFormat.text LoadConfig.default.filePath (members.lookup "file_path")
        = some (Field.filePath.read doc) := typed.orDefault_lookup .filePath h
    have size : tomlFormat.optional tomlFormat.word (members.lookup "file_size")
        = some (Field.fileSize.read doc) := typed.optional_lookup .fileSize rfl rfl h
    have least : orDefault tomlFormat.word LoadConfig.default.minTextSize
        (members.lookup "min_text_size") = some (Field.minTextSize.read doc) :=
      typed.orDefault_lookup .minTextSize h
    have greatest : orDefault tomlFormat.word LoadConfig.default.maxTextSize
        (members.lookup "max_text_size") = some (Field.maxTextSize.read doc) :=
      typed.orDefault_lookup .maxTextSize h
    have idPrefix : orDefault tomlFormat.text LoadConfig.default.idPrefix
        (members.lookup "id_prefix") = some (Field.idPrefix.read doc) :=
      typed.orDefault_lookup .idPrefix h
    have rate : orDefault tomlFormat.halfWord LoadConfig.default.ratePerSec
        (members.lookup "rate_per_sec") = some (Field.ratePerSec.read doc) :=
      typed.orDefault_lookup .ratePerSec h
    have buffer : orDefault tomlFormat.word LoadConfig.default.bufferSize
        (members.lookup "buffer_size") = some (Field.loadBuffer.read doc) :=
      typed.orDefault_lookup .loadBuffer h
    have limit : tomlFormat.optional tomlFormat.word (members.lookup "max_documents")
        = some (Field.maxDocuments.read doc) := typed.optional_lookup .maxDocuments rfl rfl h
    simp only [LoadConfig.read?, loadFieldNames, tomlFormat_fields, List.map_cons, List.map_nil,
      path, size, least, greatest, idPrefix, rate, buffer, limit]
    rfl

theorem read_stage (typed : doc.WellTyped) (stage : StageKey) :
    orDefault (StageConfig.read? tomlFormat) .default (doc.at? ["stages", stage.name])
      = some ⟨(Field.workers stage).read doc, (Field.stageBuffer stage).read doc⟩ := by
  refine typed.orDefault_section (fun h => ?_) (fun origin members h => ?_) (.workers stage)
    ((List.mem_inits _ _).mpr (List.prefix_refl _))
  · rw [Field.read_of_absent (.workers stage) h, Field.read_of_absent (.stageBuffer stage) h]
    cases stage <;> rfl
  · have workers : orDefault tomlFormat.word StageConfig.default.workers (members.lookup "workers")
        = some ((Field.workers stage).read doc) := by
      rw [← typed.orDefault_lookup (.workers stage) h]
      cases stage <;> rfl
    have buffer : orDefault tomlFormat.word StageConfig.default.bufferSize
        (members.lookup "buffer_size") = some ((Field.stageBuffer stage).read doc) := by
      rw [← typed.orDefault_lookup (.stageBuffer stage) h]
      cases stage <;> rfl
    simp only [StageConfig.read?, tomlFormat_fields, List.map_cons, List.map_nil, workers, buffer]
    rfl

theorem read_stages (typed : doc.WellTyped) :
    orDefault (StagesConfig.read? tomlFormat) .default (doc.at? ["stages"])
      = some (Config.ofFields (·.read doc)).stages := by
  refine typed.orDefault_section (fun h => ?_) (fun origin members h => ?_) (.workers .load)
    (by decide)
  · have absent (key : StageKey) : doc.at? ["stages", key.name] = none := by
      rw [show ["stages", key.name] = ["stages"] ++ [key.name] from rfl, at?_append, h]
      rfl
    have workers (key : StageKey) := Field.read_of_absent (.workers key) (absent key)
    have buffer (key : StageKey) := Field.read_of_absent (.stageBuffer key) (absent key)
    simp only [Config.ofFields, workers, buffer]
    rfl
  · have stage (key : StageKey) := typed.read_stage key
    have found (key : StageKey) : doc.at? ["stages", key.name] = members.lookup key.name := by
      rw [show ["stages", key.name] = ["stages"] ++ [key.name] from rfl, at?_append, h,
        Option.bind_some, at?_singleton]
    simp only [found] at stage
    have load := stage .load
    have tokenize := stage .tokenize
    have embed := stage .embed
    have index := stage .index
    simp only [StageKey.name] at load tokenize embed index
    simp only [StagesConfig.read?, tomlFormat_fields, List.map_cons, List.map_nil, load, tokenize,
      embed, index]
    rfl

theorem read_embedding (typed : doc.WellTyped) :
    orDefault (EmbeddingConfig.read? tomlFormat) .default (doc.at? ["embedding"])
      = some (Config.ofFields (·.read doc)).embedding := by
  refine typed.orDefault_section (fun h => ?_) (fun origin members h => ?_) .dimensions (by decide)
  · simp only [Config.ofFields, Field.read_of_absent .dimensions h]
    rfl
  · have dimensions : orDefault tomlFormat.word EmbeddingConfig.default.dimensions
        (members.lookup "dimensions") = some (Field.dimensions.read doc) :=
      typed.orDefault_lookup .dimensions h
    simp only [EmbeddingConfig.read?, tomlFormat_fields, List.map_cons, List.map_nil, dimensions]
    rfl

theorem read_index (typed : doc.WellTyped) :
    orDefault (IndexConfig.read? tomlFormat) .default (doc.at? ["index"])
      = some (Config.ofFields (·.read doc)).index := by
  refine typed.orDefault_section (fun h => ?_) (fun origin members h => ?_) .threshold (by decide)
  · simp only [Config.ofFields, Field.read_of_absent .threshold h,
      Field.read_of_absent .initialCapacity h]
    rfl
  · have threshold : orDefault tomlFormat.single IndexConfig.default.threshold
        (members.lookup "dedup_threshold") = some (Field.threshold.read doc) :=
      typed.orDefault_lookup .threshold h
    have capacity : orDefault tomlFormat.word IndexConfig.default.initialCapacity
        (members.lookup "initial_capacity") = some (Field.initialCapacity.read doc) :=
      typed.orDefault_lookup .initialCapacity h
    simp only [IndexConfig.read?, tomlFormat_fields, List.map_cons, List.map_nil, threshold,
      capacity]
    rfl

theorem read_metrics (typed : doc.WellTyped) :
    orDefault (ReportConfig.read? tomlFormat) .default (doc.at? ["metrics"])
      = some (Config.ofFields (·.read doc)).metrics := by
  refine typed.orDefault_section (fun h => ?_) (fun origin members h => ?_) .interval (by decide)
  · simp only [Config.ofFields, Field.read_of_absent .interval h]
    rfl
  · have interval : orDefault tomlFormat.word ReportConfig.default.intervalSecs
        (members.lookup "report_interval_secs") = some (Field.interval.read doc) :=
      typed.orDefault_lookup .interval h
    simp only [ReportConfig.read?, tomlFormat_fields, List.map_cons, List.map_nil, interval]
    rfl

end TomlValue.WellTyped

/-- **Each field of a document is what the document says, or else its default.** -/
theorem Config.get_ofTomlValue? (typed : doc.WellTyped) :
    ∃ c, ofTomlValue? doc = some c ∧
      ∀ {α : Type} (field : Field α), field.get c = field.read doc := by
  obtain ⟨origin, members, rfl⟩ := (typed.tables .logLevel [] (by decide) doc rfl).exists_eq
  have found (name : String) := TomlValue.at?_singleton name origin members
  have general := typed.read_general
  have load := typed.read_load
  have stages := typed.read_stages
  have embedding := typed.read_embedding
  have index := typed.read_index
  have metrics := typed.read_metrics
  simp only [found] at general load stages embedding index metrics
  refine ⟨ofFields (·.read _), ?_, get_ofFields _⟩
  simp only [ofTomlValue?, Config.read?, tomlFormat_fields, List.map_cons, List.map_nil, general,
    load, stages, embedding, index, metrics]
  rfl

end Reading

/-! ### What a run is configured with -/

/-- What a path says of the configuration: nothing if there is no such file, or else the
document in it. -/
inductive Config.Holds (files : FileTree) (path : String) : Option TomlValue → Prop
  | nothing {fault : Fault} (h : files.readText path = .error fault)
    (missing : isMissing fault = true) : Holds files path none
  | document {text : String} {doc : TomlValue} (h : files.readText path = .ok text)
    (parsed : TomlValue.parse? text = some doc) : Holds files path (some doc)

/-- What is found at a path has the fields that the document says, or else their defaults. -/
theorem Config.Holds.found {files : FileTree} {path : String} {doc : Option TomlValue}
    (holds : Holds files path doc) (typed : ∀ d ∈ doc, d.WellTyped) :
    ∃ found, ofFileIfExists files path = .ok found ∧ ∀ {α : Type} (field : Field α),
      field.get (found.getD .default) = (doc.bind field.given).getD (field.get .default) := by
  cases holds with
  | nothing h missing =>
    refine ⟨none, ?_, fun field => rfl⟩
    simp [ofFileIfExists, ofFile, h, bind, Except.bind, missing, pure, Except.pure]
  | @document text doc h parsed =>
    obtain ⟨c, read, fields⟩ := get_ofTomlValue? (typed doc rfl)
    refine ⟨some c, ?_, fun field => fields field⟩
    simp [ofFileIfExists, ofFile, ofToml, h, bind, Except.bind, parsed, read, pure, Except.pure]

/-- **A run is configured field by field**: by the flag, or else the document, or else the
default. There are no other fields, flags that were applied have nothing more to change, and
it is this configuration that is validated. -/
theorem Flags.effective_configuration {around : Surroundings} {path : String}
    {doc : Option TomlValue} (flags : Flags) (holds : Config.Holds around.files path doc)
    (typed : ∀ d ∈ doc, d.WellTyped) :
    ∃ found c, Config.ofFileIfExists around.files path = .ok found ∧
      (∀ {α : Type} (field : Field α), field.get c = field.effective flags doc) ∧
      (∀ c', (∀ {α : Type} (field : Field α), field.get c' = field.effective flags doc) → c' = c) ∧
      flags.apply c = c ∧
      (∀ fault, c.validate = .error fault →
        (runFlags flags around path found).ending = .failed fault) ∧
      (c.validate = .ok () →
        (runFlags flags around path found).ending = (runConfig flags around c).ending) := by
  obtain ⟨found, file, fields⟩ := holds.found typed
  have effective {α : Type} (field : Field α) :
      field.get (flags.apply (found.getD .default)) = field.effective flags doc := by
    rw [field.get_apply, fields, Field.effective]
  refine ⟨found, flags.apply (found.getD .default), file, effective,
    fun c' same => Config.ext_fields fun field => (same field).trans (effective field).symm,
    flags.apply_apply _, fun fault invalid => ?_, fun valid => ?_⟩
  · simp only [runFlags, invalid]
  · simp only [runFlags, valid]

/-- A size of the file and the workers of one stage are in the document, and the flags name
another file. -/
theorem Flags.effective_configuration_small :
    let text := "load=\x7bfile_size=7,min_text_size=5\x7d\nstages=\x7bembed=\x7bworkers=2\x7d\x7d"
    let files := FileTree.directory [("c", .file text.toUTF8.data.toList)]
    let doc : TomlValue := .table .header
      [("load", .table .braces [("file_size", .integer 7), ("min_text_size", .integer 5)]),
        ("stages", .table .braces [("embed", .table .braces [("workers", .integer 2)])])]
    let flags : Flags := ⟨none, none, some "g", none, none, some 3, none, none, false⟩
    Config.Holds files "c" (some doc) ∧ doc.WellTyped ∧
    ∃ found c, Config.ofFileIfExists files "c" = .ok found ∧
      c.load = { LoadConfig.default with filePath := "g", minTextSize := 5 } ∧
      c.stages.embed = { StageConfig.default with workers := 2 } ∧
      c.embedding.dimensions = 3 ∧ flags.apply c = c := by
  intro text files doc flags
  have holds : Config.Holds files "c" (some doc) :=
    .document (by cbv) (by cbv : TomlValue.parse? text = some doc)
  have typed : doc.WellTyped := by
    refine ⟨fun field => ?_, fun field => ?_⟩
    · cases field with
      | workers stage | stageBuffer stage => cases stage <;> decide
      | _ => decide
    · cases field with
      | workers stage | stageBuffer stage => cases stage <;> decide
      | _ => decide
  let around : Surroundings := ⟨⟨none, none⟩, files, fun _ => 0, none⟩
  obtain ⟨found, c, file, fields, -, again, -⟩ :=
    @effective_configuration around "c" (some doc) flags holds (by rintro _ ⟨⟩; exact typed)
  refine ⟨holds, typed, found, c, file, ?_, ?_, fields .dimensions, again⟩
  · exact (LoadConfig.mk.injEq ..).mpr ⟨fields .filePath, fields .fileSize, fields .minTextSize,
      fields .maxTextSize, fields .idPrefix, fields .ratePerSec, fields .loadBuffer,
      fields .maxDocuments⟩
  · exact (StageConfig.mk.injEq ..).mpr ⟨fields (.workers .embed), fields (.stageBuffer .embed)⟩

end DocSieve
