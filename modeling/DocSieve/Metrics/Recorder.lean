import DocSieve.Metrics.Board

/-!
# The recorder

The recorder counts events. Requests and bytes are counted modulo 2^64. A
silent recorder keeps nothing and is the empty one at any time.

Key definitions: `Event`, `Recorder`, `Recorder.record`.
-/

namespace DocSieve

/-- What can be counted. -/
inductive Event
  /-- A stage took an item. -/
  | processed (stage : String)
  /-- A stage dropped an item. -/
  | failed (stage : String)
  /-- A stage delivered an item after this many milliseconds. -/
  | latency (stage : String) (ms : Float)
  /-- The threshold of the index was set. -/
  | threshold (value : Float32)
  /-- The index decided on a document. -/
  | document
  /-- A document was a duplicate. -/
  | duplicate
  /-- Requests were made. -/
  | requests (n : UInt64)
  /-- A request asked for this many bytes. -/
  | bytes (n : UInt64)

/-- The counts of the index. -/
structure IndexTally where
  threshold : Float32
  documents : UInt64
  duplicates : UInt64

/-- The counts of the source of requests. -/
structure LoadTally where
  requests : UInt64
  bytes : UInt64
  deriving DecidableEq, Repr

/-- All counts. -/
structure Recorder where
  load : LoadTally
  board : Board
  index : IndexTally

/-- The index has decided on nothing, and its threshold is zero. -/
def IndexTally.zero : IndexTally := ⟨0.0, 0, 0⟩

/-- No request was made. -/
def LoadTally.zero : LoadTally := ⟨0, 0⟩

def IndexTally.submitted (t : IndexTally) : IndexTally := { t with documents := t.documents + 1 }

def IndexTally.repeated (t : IndexTally) : IndexTally := { t with duplicates := t.duplicates + 1 }

def LoadTally.requested (t : LoadTally) (size : UInt64) : LoadTally :=
  ⟨t.requests + 1, t.bytes + size⟩

namespace Recorder

/-- Nothing was counted. -/
def empty : Recorder := ⟨.zero, [], .zero⟩

/-- One event counted. -/
def record (r : Recorder) : Event → Recorder
  | .processed stage => { r with board := Board.update stage (·.take) r.board }
  | .failed stage => { r with board := Board.update stage (·.fail) r.board }
  | .latency stage ms => { r with board := Board.update stage (·.deliver ms) r.board }
  | .threshold value => { r with index := { r.index with threshold := value } }
  | .document => { r with index := r.index.submitted }
  | .duplicate => { r with index := r.index.repeated }
  | .requests n => { r with load := { r.load with requests := r.load.requests + n } }
  | .bytes n => { r with load := { r.load with bytes := r.load.bytes + n } }

end Recorder

end DocSieve
