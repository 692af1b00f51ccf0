import DocSieve.Sieve.Basic

/-!
# Running a sieve

The pacer puts requests into the channel that the chain takes them from. Both
go on until neither can without the clock moving; the clock moves only when a
decision is waited for and none can come before. At its limit the sieve cancels
itself.

Key definitions: `Sieve.settle`, `Sieve.next`, `Sieve.take`, `Sieve.drain`.
-/

namespace DocSieve

namespace Sieve

variable (s : Sieve)

/-- The pacer as it sees the first channel of the chain. -/
def feeder? : Option Pacer := do
  let pacer ← s.pacer
  let inlet ← s.chain.channels.head?
  return { pacer with output := { inlet with items := inlet.items.filterMap Parcel.request? } }

/-- The sieve with the pacer, and the first channel of the chain as the pacer
left it. -/
def feed (pacer : Pacer) : Sieve :=
  let inlet := { pacer.output with items := pacer.output.items.map Parcel.request }
  { s with chain := { s.chain with channels := s.chain.channels.set 0 inlet }, pacer := some pacer }

/-- The sieve after the chain and the pacer have gone on in turn, the pacer at
most `fuel` times. -/
def settleIn : Nat → Sieve → Sieve
  | 0, s => { s with chain := s.chain.settle }
  | fuel + 1, s =>
    let s := { s with chain := s.chain.settle }
    match s.feeder? with
    | some pacer => if pacer.step?.isSome then settleIn fuel (s.feed pacer.settle) else s
    | none => s

/-- The sieve when it cannot go on without the clock moving. -/
def settle : Sieve := settleIn ((s.pacer.map (·.energy)).getD 0) s

/-- The sieve with the clock moved to the next tick, if there is one, or to the
limit where that comes first. -/
def tick? : Option Sieve := do
  let pacer ← s.feeder?
  let time ← pacer.wakeTime?
  return if s.limit.any (· ≤ time) then { s.cancel with limit := none, expired := true }
    else s.feed (pacer.moveTo time)

/-- The next decision, waited for during at most `fuel` ticks. -/
def nextIn : Nat → Sieve → Sieve × Option Decision
  | 0, s => (s, none)
  | fuel + 1, s =>
    let s := s.settle
    match s.chain.act .receive with
    | (chain, .value (.decided decision)) => ({ s with chain }, some decision)
    | (_, .empty) =>
      match s.tick? with
      | some s => nextIn fuel s
      | none => (s, none)
    | _ => (s, none)

/-- A bound on the ticks to come: each one makes a request, but for the last one,
which may be the limit. -/
def ticks : Nat :=
  match s.pacer with
  | some pacer => (pacer.workload.maxDocuments.getD 0xffffffffffffffff).toNat + 1
  | none => 0

/-- The next decision; none if there will be none. -/
def next : Sieve × Option Decision := nextIn (s.ticks + 1) s

/-- Up to `limit` decisions, and the settled sieve after them. -/
def take : Nat → Sieve → Sieve × List Decision
  | 0, s => (s.settle, [])
  | limit + 1, s =>
    match s.next with
    | (s, some decision) =>
      let (s, decisions) := take limit s
      (s, decision :: decisions)
    | (s, none) => (s, [])

/-- All decisions to come, and the sieve at its end. -/
def drain : Sieve × List Decision := s.take (s.chain.energy + s.chain.waiting + s.ticks)

end Sieve

end DocSieve
