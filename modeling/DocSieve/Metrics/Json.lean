import DocSieve.Json.Format
import DocSieve.Metrics.Snapshot
import DocSieve.Metrics.Timestamp
import DocSieve.Text.Record

/-!
# Snapshots as JSON

A snapshot is written with the moment when it was taken. Its stages are
members of an object, by ascending names; of two members with one name the
later counts.

Key definitions: `StageSnapshot.toJson`, `DatedSnapshot`,
`DatedSnapshot.toJson`, `DatedSnapshot.ofJson?`.
-/

namespace DocSieve

namespace StageSnapshot

def toJson (s : StageSnapshot) : JsonValue :=
  .record [("processed", .ofWord s.processed), ("errors", .ofWord s.errors),
    ("delivered", .ofWord s.delivered), ("mean_latency_ms", .ofDouble s.meanLatencyMs),
    ("latency_buckets", .array (s.latencyBuckets.map .ofWord))]

def ofJson? (j : JsonValue) : Option StageSnapshot :=
  match j.fields ["processed", "errors", "delivered", "mean_latency_ms", "latency_buckets"] with
  | some [some processed, some errors, some delivered, some mean, some buckets] => do
    return ⟨← processed.word?, ← errors.word?, ← delivered.word?, ← mean.double?,
      ← buckets.items? JsonValue.word?⟩
  | _ => none

def describe (s : StageSnapshot) : String :=
  describeRecord "StageSnapshot" [("processed", describeWord s.processed),
    ("errors", describeWord s.errors), ("delivered", describeWord s.delivered),
    ("mean_latency_ms", diagnosticStyle.double s.meanLatencyMs),
    ("latency_buckets", describeList (s.latencyBuckets.map describeWord))]

end StageSnapshot

/-- A snapshot with the moment when it was taken. -/
structure DatedSnapshot where
  takenAt : Timestamp
  counts : Snapshot

/-- A list of named values by ascending names, with one more value. -/
def putByName {α : Type} (name : String) (value : α) : List (String × α) → List (String × α)
  | [] => [(name, value)]
  | (other, v) :: rest =>
    if name = other then (name, value) :: rest
    else if name < other then (name, value) :: (other, v) :: rest
    else (other, v) :: putByName name value rest

def stagesOfJson? : JsonValue → Option (List (String × StageSnapshot))
  | .object members =>
    members.foldlM (fun stages (name, value) => do
      return putByName (← name.text?) (← StageSnapshot.ofJson? value) stages) []
  | _ => none

namespace DatedSnapshot

def toJson (s : DatedSnapshot) : JsonValue :=
  .record [("taken_at", .ofText s.takenAt.render), ("load_requests", .ofWord s.counts.loadRequests),
    ("requested_bytes", .ofWord s.counts.requestedBytes),
    ("stages", .record (s.counts.stages.map fun (name, stage) => (name, stage.toJson))),
    ("dedup_threshold", .ofSingle s.counts.threshold),
    ("documents_processed", .ofWord s.counts.documents),
    ("duplicate_documents", .ofWord s.counts.duplicates)]

/-- The names of the members of a snapshot, in order. -/
def fieldNames : List String :=
  ["taken_at", "load_requests", "requested_bytes", "stages", "dedup_threshold",
    "documents_processed", "duplicate_documents"]

def ofJson? (j : JsonValue) : Option DatedSnapshot :=
  match j.fields fieldNames with
  | some [some time, some requests, some bytes, some stages, some threshold, some documents,
      some duplicates] => do
    return {
      takenAt := ← Timestamp.ofText? (← time.text?)
      counts := {
        loadRequests := ← requests.word?
        requestedBytes := ← bytes.word?
        stages := ← stagesOfJson? stages
        threshold := ← threshold.single?
        documents := ← documents.word?
        duplicates := ← duplicates.word? } }
  | _ => none

end DatedSnapshot

end DocSieve
