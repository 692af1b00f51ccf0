import DocSieve.Metrics.Recorder

/-!
# Snapshots of the counts

A snapshot shows every count as a 64-bit number, with the mean latency of each
stage, at a moment.

Key definitions: `StageSnapshot`, `Snapshot`, `Snapshot.duplicateRatio`.
-/

namespace DocSieve

/-- The counts of a stage at a moment. -/
structure StageSnapshot where
  processed : UInt64
  errors : UInt64
  delivered : UInt64
  meanLatencyMs : Float
  latencyBuckets : List UInt64

/-- All counts at a moment. -/
structure Snapshot where
  loadRequests : UInt64
  requestedBytes : UInt64
  /-- By ascending names. -/
  stages : List (String × StageSnapshot)
  threshold : Float32
  documents : UInt64
  duplicates : UInt64

/-- The counts of a stage now. -/
def StageStats.snapshot (s : StageStats) : StageSnapshot :=
  ⟨UInt64.ofNat s.processed, UInt64.ofNat s.errors, UInt64.ofNat s.delivered, s.meanLatency,
    s.buckets.map UInt64.ofNat⟩

/-- The counts of all stages now. -/
def Board.snapshot (board : Board) : List (String × StageSnapshot) :=
  board.map fun (name, stats) => (name, stats.snapshot)

/-- All counts now. -/
def Recorder.snapshot (r : Recorder) : Snapshot :=
  ⟨r.load.requests, r.load.bytes, r.board.snapshot, r.index.threshold, r.index.documents,
    r.index.duplicates⟩

/-- The share of the decisions that found a duplicate, zero without decisions. -/
def duplicateRatio (documents duplicates : UInt64) : Float :=
  if documents = 0 then 0.0
  else naturalToDouble duplicates.toNat / naturalToDouble documents.toNat

def Snapshot.duplicateRatio (s : Snapshot) : Float :=
  DocSieve.duplicateRatio s.documents s.duplicates

end DocSieve
