import DocSieve.Numeric.Binary

/-!
# Counts per stage

The board keeps, for every stage that was mentioned, how many items it took,
how many failed, and a latency for each one that it delivered. Stages are
listed in the order of their names, which is the order of their code points.

Key definitions: `StageStats`, `Board`, `Board.update`.
-/

namespace DocSieve

/-- The upper bounds of the latency buckets, in milliseconds. One more bucket
holds what lies above the last bound. -/
def latencyBounds : List Float :=
  [0.005, 0.01, 0.025, 0.05, 0.1, 0.25, 0.5, 1.0, 2.0, 5.0, 10.0, 25.0, 50.0, 100.0, 250.0, 500.0]

/-- The bucket of a latency: the number of bounds that it exceeds before the
first that it does not. -/
def latencyBucket (ms : Float) : Nat := latencyBounds.findIdx fun bound => ms ≤ bound

def nanosecondsPerSecond : Nat := 1000000000

/-- A latency in milliseconds. The nanoseconds may hold whole seconds, unless
there is no room for them beside the others. -/
def latencyMs? (seconds : UInt64) (nanoseconds : UInt32) : Option Float :=
  let whole := seconds.toNat + nanoseconds.toNat / nanosecondsPerSecond
  let rest := nanoseconds.toNat % nanosecondsPerSecond
  if whole < UInt64.size then
    some ((naturalToDouble whole + naturalToDouble rest / 1e9) * 1000.0)
  else none

/-- The counts of one stage. -/
structure StageStats where
  processed : Nat
  errors : Nat
  delivered : Nat
  latencySum : Float
  buckets : List Nat

namespace StageStats

/-- No event. -/
def zero : StageStats := ⟨0, 0, 0, 0.0, List.replicate (latencyBounds.length + 1) 0⟩

variable (s : StageStats)

def take : StageStats := { s with processed := s.processed + 1 }

def fail : StageStats := { s with errors := s.errors + 1 }

/-- One more item delivered, after a latency. -/
def deliver (ms : Float) : StageStats :=
  { s with
    delivered := s.delivered + 1
    latencySum := s.latencySum + ms
    buckets := s.buckets.modify (latencyBucket ms) (· + 1) }

/-- The mean latency, zero if nothing was delivered. -/
def meanLatency : Float :=
  if s.delivered = 0 then 0.0 else s.latencySum / naturalToDouble s.delivered

end StageStats

/-- The counts of the stages that were mentioned, by ascending names. -/
abbrev Board := List (String × StageStats)

namespace Board

/-- The board with the counts of one stage changed; a stage not mentioned
before starts at zero. -/
def update (name : String) (change : StageStats → StageStats) : Board → Board
  | [] => [(name, change .zero)]
  | (other, stats) :: rest =>
    if name = other then (other, change stats) :: rest
    else if name < other then (name, change .zero) :: (other, stats) :: rest
    else (other, stats) :: update name change rest

/-- The counts of one stage. -/
def stats (board : Board) (name : String) : StageStats := (board.lookup name).getD .zero

end Board

end DocSieve
