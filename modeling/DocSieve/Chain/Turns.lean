import DocSieve.Chain.Basic

/-!
# Taking turns

Any order of moves is a run of the chain. The order in which it is run here
is this: a move that can be made waits for its turn behind those that have
waited longer; of the idle workers of a stage, one waits for the next item;
and a transform, which takes time, is run only when no other move waits.

Key definitions: `Chain.stageTurns`, `Chain.queueUp`, `Chain.settle`.
-/

namespace DocSieve

namespace Chain

variable {σ α : Type} (chain : Chain σ α)

/-- The worker is about to run the transform. -/
def isTransform : Move → Bool
  | .poll i w =>
    match chain.crews[i]?.bind (·.workers[w]?) with
    | some (.busy _) => true
    | _ => false
  | .finish _ => false

/-- The position of the first idle worker of a stage. -/
def firstIdle (crew : Crew σ α) : Nat :=
  crew.workers.findIdx fun worker => match worker with | .idle => true | _ => false

/-- For each worker of a stage, whether its move waits. -/
def queued (i : Nat) (crew : Crew σ α) (waiting : List Move) : Array Bool :=
  waiting.foldl (fun marks m =>
    match m with
    | .poll j w => if j = i then marks.setIfInBounds w true else marks
    | .finish _ => marks) (Array.replicate crew.workers.length false)

/-- The moves of one stage that can be made and do not wait; of the idle workers
that would take an item, that of the first. -/
def stageTurns (waiting : List Move) (i : Nat) : List Move :=
  match chain.spot? i with
  | none => []
  | some s =>
    let first := firstIdle s.crew
    let queued := queued i s.crew waiting
    let polls := s.crew.workers.zipIdx.filterMap fun (worker, w) =>
      if queued.getD w false then none
      else
        match s.deedOf? chain.cancelled worker with
        | none => none
        | some (.take _) => if first < w then none else some (Move.poll i w)
        | some _ => some (Move.poll i w)
    if s.canFinish && !waiting.contains (.finish i) then polls ++ [.finish i] else polls

/-- The moves that wait, the longest waiting first, with those behind them that
can be made now, one taker per stage. -/
def queueUp (waiting : List Move) : List Move :=
  waiting ++ (List.range chain.crews.length).flatMap (chain.stageTurns waiting)

/-- The move whose turn it is. -/
def next? (waiting : List Move) : Option Move :=
  let quick := waiting.find? fun m => !chain.isTransform m && chain.can m
  quick.or ((waiting.find? chain.can).or (chain.moves.find? chain.can))

/-- The chain after at most `fuel` moves in turn. -/
def settleIn : Nat → Chain σ α → List Move → Chain σ α
  | 0, chain, _ => chain
  | fuel + 1, chain, waiting =>
    let waiting := chain.queueUp waiting
    match chain.next? waiting with
    | some m =>
      match chain.step? m with
      | some next => settleIn fuel next (waiting.erase m)
      | none => chain
    | none => chain

/-- The chain when it cannot go on by itself, where some moves have waited. -/
def settleAfter (waiting : List Move) : Chain σ α := settleIn chain.energy chain waiting

/-- The chain when it cannot go on by itself. -/
def settle : Chain σ α := chain.settleAfter []

end Chain

end DocSieve
