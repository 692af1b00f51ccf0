/-!
# Bounded channels

A channel holds values on their way from senders to receivers, oldest first,
at most `capacity` of them. Whoever sends or receives has a handle to do so, and
the channel counts the handles at either end. Once no handle to send with is left
and the values are taken, a receiver sees the channel closed; with the last handle
to receive with go the values that were not taken, and senders see the channel
closed.

Key definitions: `Channel`, `Channel.send`, `Channel.receive`.
-/

namespace DocSieve

/-- A bounded channel and the handles that are left at its ends. -/
structure Channel (α : Type) where
  capacity : Nat
  /-- The values that were sent and not yet received, oldest first. -/
  items : List α
  /-- The handles to send with. -/
  senders : Nat
  /-- The handles to receive with. -/
  receivers : Nat

/-- What a sender or the receiver is told. -/
inductive Answer (α : Type)
  | sent
  | full
  | value (v : α)
  | empty
  /-- Nobody is left at the other end. -/
  | closed
  | noSender
  | noReceiver
  /-- The request has no answer of its own. -/
  | none

/-- The most slots that a channel can have. -/
def maxSlots : Nat := 0x1fffffffffffffff

namespace Channel

variable {α : Type}

def new (capacity senders receivers : Nat) : Channel α := ⟨capacity, [], senders, receivers⟩

variable (c : Channel α)

def hasSender : Bool := 0 < c.senders

def hasReceiver : Bool := 0 < c.receivers

def hasRoom : Bool := c.items.length < c.capacity

def push (v : α) : Channel α := { c with items := c.items ++ [v] }

/-- The channel with one handle to send with less. -/
def dropSender : Channel α := { c with senders := c.senders - 1 }

/-- The channel with one handle to receive with less; with the last one its values go. -/
def dropReceiver : Channel α :=
  { c with
    items := if c.receivers ≤ 1 then [] else c.items
    receivers := c.receivers - 1 }

/-- Send without waiting. -/
def send (v : α) : Channel α × Answer α :=
  if !c.hasSender then (c, .noSender)
  else if !c.hasReceiver then (c, .closed)
  else if c.hasRoom then (c.push v, .sent)
  else (c, .full)

/-- Receive without waiting. -/
def receive : Channel α × Answer α :=
  if !c.hasReceiver then (c, .noReceiver)
  else
    match c.items with
    | v :: rest => ({ c with items := rest }, .value v)
    | [] => (c, if c.hasSender then .empty else .closed)

end Channel

end DocSieve
