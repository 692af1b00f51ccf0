import DocSieve.Chain.Turns

/-!
# A chain from outside

From outside a chain is fed at its first channel, read at its last, and can be
cancelled. No request waits.

Key definitions: `Action`, `Chain.act`, `Chain.serve`, `Chain.drain`.
-/

namespace DocSieve

/-- What can be asked of a chain. -/
inductive Action (α : Type)
  | send (item : α)
  | receive
  /-- No more items will be sent. -/
  | close
  | cancel
  /-- No more results will be received. -/
  | drop

namespace Chain

variable {σ α : Type} (chain : Chain σ α)

/-- The chain with its channel `i` changed, and what was told. -/
def onChannel (i : Nat) (f : Channel α → Channel α × Answer α) : Chain σ α × Answer α :=
  match chain.channels[i]? with
  | some c =>
    let (c, answer) := f c
    ({ chain with channels := chain.channels.set i c }, answer)
  | none => (chain, .none)

/-- The position of the last channel. -/
def exit : Nat := chain.channels.length - 1

/-- The chain after a request, and the answer to it. -/
def act : Action α → Chain σ α × Answer α
  | .send item => chain.onChannel 0 (·.send item)
  | .receive => chain.onChannel chain.exit (·.receive)
  | .close => chain.onChannel 0 fun c => (c.dropSender, .none)
  | .drop => chain.onChannel chain.exit fun c => (c.dropReceiver, .none)
  | .cancel => ({ chain with cancelled := true }, .none)

/-- The settled chain after some requests at once, and the answers. What a
request makes possible waits behind what waited before it. -/
def serve (waiting : List Move) (actions : List (Action α)) : Chain σ α × List (Answer α) :=
  let (chain, waiting, answers) := actions.foldl (fun (chain, waiting, answers) a =>
    let (chain, answer) := chain.act a
    (chain, chain.queueUp waiting, answer :: answers)) (chain, waiting, [])
  (chain.settleAfter waiting, answers.reverse)

/-- The number of values in the last channel. -/
def waiting : Nat := (chain.channels[chain.exit]?.map (·.items.length)).getD 0

/-- Up to `limit` values received one by one, the chain settling after each. -/
def receiveUpTo : Nat → Chain σ α → Chain σ α × List α
  | 0, chain => (chain, [])
  | limit + 1, chain =>
    match chain.act .receive with
    | (next, .value v) =>
      let (last, values) := receiveUpTo limit next.settle
      (last, v :: values)
    | (next, _) => (next, [])

/-- All values that the settled chain still gives. Each one lowers the energy
or the number of values in the last channel. -/
def drain : Chain σ α × List α :=
  let settled := chain.settle
  receiveUpTo (settled.energy + settled.waiting) settled

/-- Every stage has one worker, so values keep the order of the items. -/
def keepsOrder : Bool := chain.crews.all fun crew => crew.stage.workers == 1

def summaries : List Summary := chain.crews.filterMap (·.summary)

end Chain

end DocSieve
