/-!
# Cancellation signals

A signal is cancelled once and for ever, together with all its clones. A
waiter belongs to a signal and is ready as soon as that signal is cancelled.
Signals and waiters are known by their numbers, in the order of their making.

Key definitions: `Signals`, `SignalRequest`, `Signals.step`.
-/

namespace DocSieve

/-- One who waits for a signal. -/
structure Waiter where
  /-- The family of the signal. -/
  family : Nat
  /-- It was told that the signal is cancelled. -/
  told : Bool
  deriving DecidableEq, Repr

/-- A number of signals and those who wait for them. Clones form a family. -/
structure Signals where
  /-- The family of each signal. -/
  families : List Nat
  /-- The families that were cancelled. -/
  cancelled : List Nat
  waiters : List Waiter
  deriving DecidableEq, Repr

/-- What can be asked of signals. -/
inductive SignalRequest
  | create
  | clone (signal : Nat)
  | cancel (signal : Nat)
  | isCancelled (signal : Nat)
  | wait (signal : Nat)
  | poll (waiter : Nat)
  deriving DecidableEq, Repr

/-- What a waiter is told. -/
inductive Readiness
  | pending
  | ready
  /-- It was ready before. -/
  | done
  deriving DecidableEq, Repr

inductive SignalAnswer
  /-- The number of signals, or of waiters. -/
  | count (n : Nat)
  /-- Whether each signal is cancelled. -/
  | flags (states : List Bool)
  | flag (state : Bool)
  | readiness (state : Readiness)
  /-- There is no such signal or waiter. -/
  | unknown
  deriving DecidableEq, Repr

namespace Signals

/-- One signal, not cancelled. -/
def one : Signals := ⟨[0], [], []⟩

variable (s : Signals)

def familyCancelled (family : Nat) : Bool := s.cancelled.contains family

/-- A family that no signal belongs to. -/
def freshFamily : Nat := s.families.length

/-- The signals after a request, and the answer. -/
def step (request : SignalRequest) : Signals × SignalAnswer :=
  match request with
  | .create =>
    ({ s with families := s.families ++ [s.freshFamily] }, .count (s.families.length + 1))
  | .clone i =>
    match s.families[i]? with
    | some family => ({ s with families := s.families ++ [family] }, .count (s.families.length + 1))
    | none => (s, .unknown)
  | .cancel i =>
    match s.families[i]? with
    | some family =>
      let next := { s with cancelled := family :: s.cancelled }
      (next, .flags (next.families.map next.familyCancelled))
    | none => (s, .unknown)
  | .isCancelled i =>
    match s.families[i]? with
    | some family => (s, .flag (s.familyCancelled family))
    | none => (s, .unknown)
  | .wait i =>
    match s.families[i]? with
    | some family =>
      ({ s with waiters := s.waiters ++ [⟨family, false⟩] }, .count (s.waiters.length + 1))
    | none => (s, .unknown)
  | .poll i =>
    match s.waiters[i]? with
    | some waiter =>
      if waiter.told then (s, .readiness .done)
      else if s.familyCancelled waiter.family then
        ({ s with waiters := s.waiters.set i { waiter with told := true } }, .readiness .ready)
      else (s, .readiness .pending)
    | none => (s, .unknown)

end Signals

end DocSieve
