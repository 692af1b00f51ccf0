import DocSieve.Chain.Spot
import DocSieve.Fault.Basic

/-!
# Chains of stages

A chain of `n` stages has `n + 1` channels: stage `i` takes from channel `i`
and puts into channel `i + 1`. The stages share a state, a board of counts and
a flag that cancels them all. The chain makes moves of its own, in any order,
until it is settled. Every move lowers its energy, so there are at most that
many.

Key definitions: `Chain`, `Move`, `Chain.start`, `Chain.can`, `Chain.step?`,
`Chain.energy`.
-/

namespace DocSieve

/-- Stages at work and the channels between them. -/
structure Chain (σ α : Type) where
  channels : List (Channel α)
  crews : List (Crew σ α)
  shared : σ
  board : Board
  cancelled : Bool

/-- What a chain can do by itself. -/
inductive Move
  /-- A worker of a stage looks around. -/
  | poll (stage worker : Nat)
  /-- A stage ends. -/
  | finish (stage : Nat)
  deriving DecidableEq, Repr

namespace Chain

variable {σ α : Type}

/-- The channels of some stages, the first one with `slots` slots and `senders` handles
to send with. Every worker has a handle at either end of its stage, and a stage has one
of its own to send with; who reads the last channel has one. -/
def wire (slots senders : Nat) : List (Stage σ α) → List (Channel α)
  | [] => [.new slots senders 1]
  | stage :: rest => .new slots senders stage.workers :: wire stage.slots (stage.workers + 1) rest

/-- A chain at its start, fed by who has the one handle of a channel of `slots` slots. A
channel without slots, or with more than can be addressed, cannot be made. -/
def start (slots : Nat) (stages : List (Stage σ α)) (shared : σ) : Except Fault (Chain σ α) :=
  if (slots :: stages.map (·.slots)).all fun n => 0 < n ∧ n ≤ maxSlots then
    pure ⟨wire slots 1 stages, stages.map .start, shared, [], false⟩
  else throw .oversize

variable (chain : Chain σ α)

/-- A stage with all that it sees. -/
def spot? (i : Nat) : Option (Spot σ α) := do
  let inlet ← chain.channels[i]?
  let crew ← chain.crews[i]?
  let outlet ← chain.channels[i + 1]?
  return ⟨inlet, crew, outlet, chain.shared, chain.board⟩

/-- The chain after a change of what one stage sees. -/
def putSpot (i : Nat) (s : Spot σ α) : Chain σ α :=
  { chain with
    channels := (chain.channels.set i s.inlet).set (i + 1) s.outlet
    crews := chain.crews.set i s.crew
    shared := s.shared
    board := s.board }

def can : Move → Bool
  | .poll i w => (chain.spot? i).any fun s => (s.deed? chain.cancelled w).isSome
  | .finish i => (chain.spot? i).any (·.canFinish)

/-- The chain after a move, if the move can be made. -/
def step? : Move → Option (Chain σ α)
  | .poll i w => do
    let s ← chain.spot? i
    let deed ← s.deed? chain.cancelled w
    return chain.putSpot i (s.perform w deed)
  | .finish i => do
    let s ← chain.spot? i
    if s.canFinish then some (chain.putSpot i (s.finish chain.cancelled)) else none

/-- The moves of one stage, whether they can be made or not. -/
def stageMoves (i : Nat) (crew : Crew σ α) : List Move :=
  (List.range crew.workers.length).map (Move.poll i) ++ [.finish i]

def moves : List Move := chain.crews.zipIdx.flatMap fun (crew, i) => stageMoves i crew

/-- No move can be made. -/
def Settled : Prop := ∀ m, chain.step? m = none

def total (numbers : List Nat) : Nat := numbers.foldr (· + ·) 0

/-- What a worker can still do, with `ahead` stages to go, its own included. -/
def workerEnergy (ahead : Nat) : Worker α → Nat
  | .idle => 1
  | .busy _ => 3 * ahead
  | .holding _ => 3 * ahead - 1
  | .gone => 0

/-- What a stage can still do, with `ahead` stages to go, its own included. -/
def crewEnergy (ahead : Nat) (crew : Crew σ α) : Nat :=
  total (crew.workers.map (workerEnergy ahead)) + if crew.summary.isNone then 1 else 0

/-- A bound on the moves that the chain can make by itself. -/
def energy : Nat :=
  let n := chain.crews.length
  total (chain.channels.zipIdx.map fun (c, i) => 3 * (n - i) * c.items.length)
    + total (chain.crews.zipIdx.map fun (crew, i) => crewEnergy (n - i) crew)

end Chain

end DocSieve
