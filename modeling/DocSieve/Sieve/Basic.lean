import DocSieve.Chain.Action
import DocSieve.Config.Basic
import DocSieve.Generator.Pacer
import DocSieve.Sieve.Parcel

/-!
# The sieve

A sieve is a chain of four stages, `load`, `tokenize`, `embed` and `index`,
that decides on documents. It is fed from a list of requests or by a pacer,
whose channel is then the first one of the chain. Whatever is wrong with the
settings shows before anything starts.

Key definitions: `Sieve`, `Sieve.stages`, `Sieve.ofRequests`,
`Sieve.ofWorkload`.
-/

namespace DocSieve

/-- Four stages at work, and the pacer that feeds them if one does. -/
structure Sieve where
  chain : Chain Collection Parcel
  pacer : Option Pacer
  /-- The time at which the sieve cancels itself. -/
  limit : Option Nat
  /-- The sieve has cancelled itself. -/
  expired : Bool

/-- The workload that a configuration asks for, on a file of a size. -/
def LoadConfig.workload (c : LoadConfig) (fileSize : UInt64) : Workload :=
  ⟨c.minTextSize, c.maxTextSize, c.idPrefix, c.ratePerSec, c.filePath, fileSize, c.maxDocuments⟩

/-- The size of the file, as configured or else as it is. -/
def LoadConfig.sizeOfFile (c : LoadConfig) (files : FileTree) : Except Fault UInt64 :=
  match c.fileSize with
  | some size => pure size
  | none => files.size c.filePath

namespace Sieve

/-- A stage of a configured size that leaves the collection alone. -/
def plainStage (name : String) (size : StageConfig) (transform : Parcel → Outcome Parcel) :
    Stage Collection Parcel :=
  .make name size.workers.toNat size.bufferSize.toNat fun c parcel => (c, transform parcel)

/-- The four stages. -/
def stages (sizes : StagesConfig) (files : FileTree) (embedder : Embedder) :
    List (Stage Collection Parcel) :=
  [plainStage "load" sizes.load (Parcel.load files),
    plainStage "tokenize" sizes.tokenize Parcel.tokenize,
    plainStage "embed" sizes.embed (Parcel.embed embedder),
    .make "index" sizes.index.workers.toNat sizes.index.bufferSize.toNat Parcel.submit]

/-- The chain of a configuration, fed by a channel of `slots` slots. -/
def startChain (config : Config) (files : FileTree) (slots : Nat) :
    Except Fault (Chain Collection Parcel) := do
  let embedder ← Embedder.new? config.embedding.dimensions
  let collection ← Collection.create? config.index.threshold config.index.initialCapacity
  Chain.start slots (stages config.stages files embedder) collection

/-- A sieve over a list of requests, after which no more come. -/
def ofRequests (config : Config) (files : FileTree) (requests : List Request) :
    Except Fault Sieve := do
  let chain ← startChain config files (max requests.length 1)
  let chain := requests.foldl (fun chain r => (chain.act (.send (.request r))).1) chain
  return ⟨(chain.act .close).1, none, none, false⟩

/-- A sieve over the requests of a pacer, which draws windows of the
configured file. -/
def ofWorkload (config : Config) (files : FileTree) (words : WordStream) : Except Fault Sieve := do
  let fileSize ← config.load.sizeOfFile files
  let pacer ← Pacer.start (config.load.workload fileSize) words config.load.bufferSize.toNat
  let chain ← startChain config files pacer.output.capacity
  return ⟨chain, some pacer, none, false⟩

variable (s : Sieve)

def cancel : Sieve :=
  { s with
    chain := (s.chain.act .cancel).1
    pacer := s.pacer.map fun p => { p with cancelled := true } }

/-- The sieve after it was left by who receives its decisions. -/
def abandon : Sieve := { s with chain := (s.chain.act .drop).1 }

/-- What has been decided and stored so far. -/
def collection : Collection := s.chain.shared

/-- All counts so far. -/
def recorder : Recorder :=
  ⟨(s.pacer.map (·.tally)).getD .zero, s.chain.board, s.collection.tally⟩

end Sieve

end DocSieve
