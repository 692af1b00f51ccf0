import DocSieve.Chain.Channel
import DocSieve.Fault.Basic
import DocSieve.Generator.Window
import DocSieve.Metrics.Recorder

/-!
# The pacer of requests

The pacer waits for a tick, makes a request, counts it, and sends it; a full
channel blocks it. The first tick is due when the pacer first runs. A tick
that comes at most five milliseconds late is followed by one a period after
its due time; after a later one the period starts anew. The pacer stops when
it is cancelled, when it has sent as many requests as it should, or when
nobody receives them.

Time is counted in nanoseconds and stands still while the pacer runs. The
clock wakes a waiting pacer at whole milliseconds only.

Key definitions: `Pacer`, `Pacer.step?`, `Pacer.settle`, `Pacer.sleep`,
`Pacer.await`.
-/

namespace DocSieve

/-- What the pacer is doing. -/
inductive PacerPhase
  | starting
  | waiting
  | sending (request : Request)
  | stopped

/-- A paced source of requests. -/
structure Pacer where
  workload : Workload
  words : WordStream
  /-- The number of random words that were drawn. -/
  position : Nat
  /-- The number of requests that were sent. -/
  counter : UInt64
  /-- The time. -/
  now : Nat
  /-- The time of the next tick. -/
  deadline : Nat
  phase : PacerPhase
  output : Channel Request
  cancelled : Bool
  tally : LoadTally

/-- How late a tick may be, in nanoseconds, without shifting the ones after it. -/
def tolerance : Nat := 5000000

/-- The nanoseconds of a millisecond. -/
def millisecond : Nat := 1000000

namespace Pacer

/-- The slots of a pacer that asks for none. -/
def defaultSlots : Nat := 100

/-- A pacer that has not run yet. -/
def start (workload : Workload) (words : WordStream) (slots : Nat) : Except Fault Pacer :=
  let slots := if slots = 0 then defaultSlots else slots
  if slots ≤ maxSlots then
    pure ⟨workload, words, 0, 0, 0, 0, .starting, .new slots 1 1, false, .zero⟩
  else throw .oversize

variable (p : Pacer)

/-- The pacer after it has stopped. -/
def stop : Pacer := { p with phase := .stopped, output := p.output.dropSender }

/-- All requests were sent. -/
def complete : Bool := p.workload.maxDocuments.any (· ≤ p.counter)

/-- The pacer about to wait for the next tick, if there is more to send. -/
def next : Pacer := if p.complete then p.stop else { p with phase := .waiting }

/-- The time of the tick after one that comes now. -/
def nextDeadline : Nat :=
  if p.now > p.deadline + tolerance then p.now + p.workload.period
  else p.deadline + p.workload.period

/-- The pacer after a tick: a request is made and counted. -/
def fire : Pacer :=
  let (request, position) := p.workload.request p.words p.position p.counter
  { p with
    position
    deadline := p.nextDeadline
    phase := .sending request
    tally := p.tally.requested request.size }

/-- The pacer after a request was sent. -/
def sent (request : Request) : Pacer :=
  next { p with output := p.output.push request, counter := p.counter + 1 }

/-- What the pacer does next, if it can go on at this time. -/
def step? : Option Pacer :=
  match p.phase with
  | .starting => some (next { p with deadline := p.now })
  | .waiting =>
    if p.cancelled then some p.stop else if p.deadline ≤ p.now then some p.fire else none
  | .sending request =>
    if p.cancelled || !p.output.hasReceiver then some p.stop
    else if p.output.hasRoom then some (p.sent request)
    else none
  | .stopped => none

/-- A bound on the steps at this time: each tick moves the deadline on. -/
def energy : Nat :=
  match p.phase with
  | .starting => 4
  | .waiting => 2 * (p.now + 1 - p.deadline) + 1
  | .sending _ => 2 * (p.now + 1 - p.deadline) + 2
  | .stopped => 0

/-- The pacer after at most `fuel` steps. -/
def settleIn : Nat → Pacer → Pacer
  | 0, p => p
  | fuel + 1, p =>
    match p.step? with
    | some next => settleIn fuel next
    | none => p

/-- The pacer when it cannot go on at this time. -/
def settle : Pacer := settleIn p.energy p

/-- The time at which the clock wakes the pacer, if it waits. -/
def wakeTime? : Option Nat :=
  match p.phase with
  | .waiting => some (max p.now ((p.deadline + (millisecond - 1)) / millisecond * millisecond))
  | _ => none

/-- The settled pacer at a later time. -/
def moveTo (time : Nat) : Pacer := settle { p with now := time }

/-- The pacer woken at most `fuel` times until a time. -/
def runUntil (time : Nat) : Nat → Pacer → Pacer
  | 0, p => p
  | fuel + 1, p =>
    match p.wakeTime? with
    | some wake => if wake ≤ time then runUntil time fuel (p.moveTo wake) else p.moveTo time
    | none => p.moveTo time

/-- The pacer after the clock has moved on by a time. A pacer that is woken
waits for a later tick afterwards, at least a millisecond later. -/
def sleep (duration : Nat) : Pacer :=
  let p := p.settle
  let time := p.now + duration
  runUntil time (duration / millisecond + 2) p

/-- The request that is received next, the clock moving on until there is one;
none if there will be none. -/
def await : Pacer × Option Request :=
  let p := p.settle
  let p := match p.output.items, p.wakeTime? with
    | [], some wake => p.moveTo wake
    | _, _ => p
  match p.output.receive with
  | (output, .value request) => (settle { p with output }, some request)
  | _ => (p, none)

/-- The pacer after a request was taken or nothing was there to take, without
waiting. The pacer goes on only afterwards. -/
def tryReceive : Pacer × Answer Request :=
  let (output, answer) := p.output.receive
  ({ p with output }, answer)

end Pacer

end DocSieve
