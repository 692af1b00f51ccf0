import DocSieve.Chain.Stage

/-!
# One step of one stage

A stage sees the channel it takes from, the channel it puts into, the shared
state and the board of counts. One step is one look of one worker, or the end
of the stage:

* an idle worker leaves if the chain is cancelled or nobody receives any more;
  else it takes the oldest item; else it leaves if no more items can come;
* a busy worker runs the transform and holds the value, or drops the item and
  is idle;
* a holding worker leaves, with its value, if the chain is cancelled or nobody
  receives any more; else it puts the value out if a slot is free;
* every worker has a handle at either channel, and drops both when it leaves; so
  the channel it took from loses its receivers with the last worker;
* when all workers have left, the stage ends and drops the handle of its own to
  the channel it puts into, which is the last one.

Key definitions: `Spot`, `Deed`, `Spot.deed?`, `Spot.perform`, `Spot.finish`.
-/

namespace DocSieve

/-- A stage at work with all that it sees. -/
structure Spot (σ α : Type) where
  inlet : Channel α
  crew : Crew σ α
  outlet : Channel α
  shared : σ
  board : Board

/-- What a worker does at one look. -/
inductive Deed (α : Type)
  | leave
  | take (item : α)
  | transform (item : α)
  | put (value : α)

namespace Spot

variable {σ α : Type} (s : Spot σ α)

def name : String := s.crew.stage.name

/-- What a worker that does something would do now, if it can go on. -/
def deedOf? (cancelled : Bool) (worker : Worker α) : Option (Deed α) :=
  let stop := cancelled || !s.outlet.hasReceiver
  match worker with
  | .idle =>
    if stop then some .leave
    else
      match s.inlet.items with
      | item :: _ => some (.take item)
      | [] => if s.inlet.hasSender then none else some .leave
  | .busy item => some (.transform item)
  | .holding value =>
    if stop then some .leave else if s.outlet.hasRoom then some (.put value) else none
  | .gone => none

/-- What a worker would do now, if it can go on. -/
def deed? (cancelled : Bool) (w : Nat) : Option (Deed α) :=
  s.crew.workers[w]?.bind (s.deedOf? cancelled)

/-- The spot after a worker has left. -/
def leave (w : Nat) : Spot σ α :=
  { s with
    inlet := s.inlet.dropReceiver
    crew := s.crew.leave w
    outlet := s.outlet.dropSender }

/-- The spot after an idle worker has taken the oldest item. -/
def take (w : Nat) (item : α) : Spot σ α :=
  { s with
    inlet := { s.inlet with items := s.inlet.items.tail }
    crew := (s.crew.setWorker w (.busy item)).count w .take
    board := s.board.update s.name (·.take) }

/-- The spot after a busy worker has run the transform. -/
def transform (w : Nat) (item : α) : Spot σ α :=
  let (shared, outcome) := s.crew.stage.transform s.shared item
  match outcome with
  | .done value => { s with shared, crew := s.crew.setWorker w (.holding value) }
  | .failed | .crashed =>
    { s with
      shared
      crew := (s.crew.setWorker w .idle).count w .fail
      board := s.board.update s.name (·.fail) }

/-- The spot after a holding worker has put its value out. -/
def put (w : Nat) (value : α) : Spot σ α :=
  { s with
    outlet := s.outlet.push value
    crew := (s.crew.setWorker w .idle).count w .deliver
    board := s.board.update s.name (·.deliver 0.0) }

def perform (w : Nat) : Deed α → Spot σ α
  | .leave => s.leave w
  | .take item => s.take w item
  | .transform item => s.transform w item
  | .put value => s.put w value

/-- The stage can end: all workers have left and it has not ended yet. -/
def canFinish : Bool := s.crew.allGone && s.crew.summary.isNone

/-- The spot after the stage has ended. -/
def finish (cancelled : Bool) : Spot σ α :=
  { s with
    outlet := s.outlet.dropSender
    crew := { s.crew with summary := some (s.crew.summarize cancelled) } }

end Spot

end DocSieve
