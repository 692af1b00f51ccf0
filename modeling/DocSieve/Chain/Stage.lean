import DocSieve.Chain.Channel
import DocSieve.Metrics.Board
import DocSieve.Text.Quoted

/-!
# Stages and their workers

A stage has a transform, a number of workers and a number of slots for what
they make. The transform may read and change a state that all stages share.
A worker takes an item, transforms it, and holds the value until it can put
it out; an item whose transform fails is dropped. Each worker keeps counts of
its own and hands them in when it leaves. When all workers of a stage are gone,
the counts that were handed in are added up.

Key definitions: `Stage`, `Outcome`, `Worker`, `WorkerTally`, `Crew`, `Summary`.
-/

namespace DocSieve

/-- What a transform makes of an item. -/
inductive Outcome (α : Type)
  | done (value : α)
  | failed
  | crashed

/-- The slots of a stage that asks for none. -/
def defaultSlots : Nat := 100

/-- A stage over items of one type and a shared state of another. -/
structure Stage (σ α : Type) where
  name : String
  workers : Nat
  slots : Nat
  transform : σ → α → σ × Outcome α
  workers_pos : 0 < workers
  slots_pos : 0 < slots

namespace Stage

variable {σ α : Type}

/-- A stage; without workers it gets one, without slots the default. -/
def make (name : String) (workers slots : Nat) (transform : σ → α → σ × Outcome α) : Stage σ α where
  name
  workers := max workers 1
  slots := if slots = 0 then defaultSlots else slots
  transform
  workers_pos := by omega
  slots_pos := by unfold defaultSlots; split <;> omega

def describe (stage : Stage σ α) : String :=
  "Stage \x7b name: " ++ quoted stage.name ++ ", workers: " ++ Nat.repr stage.workers
    ++ ", buffer_size: " ++ Nat.repr stage.slots ++ " \x7d"

end Stage

/-- What a worker is doing. -/
inductive Worker (α : Type)
  /-- About to take an item. -/
  | idle
  /-- Transforming an item. -/
  | busy (item : α)
  /-- About to put a value out. -/
  | holding (value : α)
  /-- Has left for good. -/
  | gone

def Worker.isGone {α : Type} : Worker α → Bool
  | .gone => true
  | _ => false

/-- What one worker has counted. -/
structure WorkerTally where
  /-- Items taken. -/
  received : Nat
  /-- Items whose transform failed. -/
  failed : Nat
  /-- Values put out. -/
  delivered : Nat
  deriving DecidableEq, Repr

namespace WorkerTally

def zero : WorkerTally := ⟨0, 0, 0⟩

variable (t : WorkerTally)

def take : WorkerTally := { t with received := t.received + 1 }

def fail : WorkerTally := { t with failed := t.failed + 1 }

def deliver : WorkerTally := { t with delivered := t.delivered + 1 }

/-- The counts of two workers together. -/
def add (u : WorkerTally) : WorkerTally :=
  ⟨t.received + u.received, t.failed + u.failed, t.delivered + u.delivered⟩

end WorkerTally

/-- The counts of a stage whose workers are all gone. -/
structure Summary where
  name : String
  workers : Nat
  /-- Items taken. -/
  received : Nat
  /-- Items whose transform failed. -/
  failed : Nat
  /-- Values put out. -/
  delivered : Nat
  /-- The chain was cancelled when the last worker had left. -/
  cancelled : Bool
  deriving DecidableEq, Repr

/-- A stage at work. -/
structure Crew (σ α : Type) where
  stage : Stage σ α
  workers : List (Worker α)
  /-- What each worker has counted. -/
  tallies : List WorkerTally
  /-- The counts that were handed in, in the order in which the workers left. -/
  returned : List WorkerTally
  /-- The summary, once the stage has ended. -/
  summary : Option Summary

namespace Crew

variable {σ α : Type}

/-- A stage that begins its work, all workers idle. -/
def start (stage : Stage σ α) : Crew σ α :=
  ⟨stage, List.replicate stage.workers .idle, List.replicate stage.workers .zero, [], none⟩

variable (crew : Crew σ α)

def allGone : Bool := crew.workers.all (·.isGone)

/-- The crew with one worker doing something else. -/
def setWorker (w : Nat) (worker : Worker α) : Crew σ α :=
  { crew with workers := crew.workers.set w worker }

/-- The crew with something counted by one worker. -/
def count (w : Nat) (change : WorkerTally → WorkerTally) : Crew σ α :=
  { crew with tallies := crew.tallies.modify w change }

/-- The crew after one worker has left and handed in its counts. -/
def leave (w : Nat) : Crew σ α :=
  { crew.setWorker w .gone with returned := crew.returned ++ crew.tallies[w]?.toList }

/-- The summary that the crew gives when it ends: what was handed in is added up, one
worker after the other. -/
def summarize (cancelled : Bool) : Summary :=
  let all := crew.returned.foldl WorkerTally.add .zero
  ⟨crew.stage.name, crew.stage.workers, all.received, all.failed, all.delivered, cancelled⟩

end Crew

end DocSieve
