import DocSieve.Chain.Channel
import Mathlib.Data.List.Infix

/-!
# What passes through a channel

A send puts the item in or changes nothing, a receive takes the oldest value out or
changes nothing. So a channel hands on what it got, in order, as long as it has a
receiver; and it is seen closed when no value and no sender is left. A handle that
was dropped does not come back.

Key definition: `Channel.Carries`.
Key theorems: `Channel.send_cases`, `Channel.receive_cases`.
-/

namespace DocSieve

variable {α : Type}

namespace Channel

/-! ### Handles -/

theorem hasSender_eq_false {c : Channel α} : c.hasSender = false ↔ c.senders = 0 := by
  simp [hasSender]

theorem hasReceiver_eq_false {c : Channel α} : c.hasReceiver = false ↔ c.receivers = 0 := by
  simp [hasReceiver]

theorem hasReceiver_eq_true {c : Channel α} : c.hasReceiver = true ↔ 0 < c.receivers := by
  simp [hasReceiver]

theorem no_sender_dropSender {c : Channel α} (h : c.hasSender = false) :
    c.dropSender.hasSender = false := by
  rw [hasSender_eq_false] at *
  simp [dropSender, h]

theorem no_receiver_dropReceiver {c : Channel α} (h : c.hasReceiver = false) :
    c.dropReceiver.hasReceiver = false := by
  rw [hasReceiver_eq_false] at *
  simp [dropReceiver, h]

theorem hasSender_dropSender {c : Channel α} (last : c.senders ≤ 1) :
    c.dropSender.hasSender = false := by
  rw [hasSender_eq_false, dropSender]
  exact Nat.sub_eq_zero_of_le last

theorem hasReceiver_dropReceiver {c : Channel α} (last : c.receivers ≤ 1) :
    c.dropReceiver.hasReceiver = false := by
  rw [hasReceiver_eq_false, dropReceiver]
  exact Nat.sub_eq_zero_of_le last

@[simp] theorem hasReceiver_push (c : Channel α) (v : α) :
    (c.push v).hasReceiver = c.hasReceiver := rfl

@[simp] theorem hasReceiver_dropSender (c : Channel α) :
    c.dropSender.hasReceiver = c.hasReceiver := rfl

@[simp] theorem hasSender_dropReceiver (c : Channel α) :
    c.dropReceiver.hasSender = c.hasSender := rfl

theorem items_dropReceiver_of_nil {c : Channel α} (h : c.items = []) :
    c.dropReceiver.items = [] := by
  simp [dropReceiver, h]

theorem length_dropReceiver_le (c : Channel α) :
    c.dropReceiver.items.length ≤ c.items.length := by
  unfold dropReceiver
  dsimp only
  split
  · exact Nat.zero_le _
  · exact Nat.le_refl _

/-- The values go with the last receiver, no sooner. -/
theorem items_dropReceiver (c : Channel α) :
    c.dropReceiver.items = if c.dropReceiver.hasReceiver then c.items else [] := by
  by_cases last : c.receivers ≤ 1
  · simp [dropReceiver, hasReceiver, last]
  · have left : 0 < c.receivers - 1 := by omega
    simp [dropReceiver, hasReceiver, last, left]

/-! ### Values -/

/-- What a send does: the item goes in, or nothing changes and it was not accepted. -/
theorem send_cases (c : Channel α) (item : α) :
    (c.hasSender = true ∧ c.hasReceiver = true ∧ c.hasRoom = true ∧
      c.send item = (c.push item, .sent)) ∨
    ((c.send item).1 = c ∧ (c.send item).2 ≠ .sent) := by
  unfold send
  cases sender : c.hasSender
  · exact .inr ⟨rfl, nofun⟩
  cases receiver : c.hasReceiver
  · exact .inr ⟨rfl, nofun⟩
  cases room : c.hasRoom
  · exact .inr ⟨rfl, nofun⟩
  · exact .inl ⟨rfl, rfl, rfl, rfl⟩

/-- What a receive does: the oldest value comes out, or nothing changes. -/
theorem receive_cases (c : Channel α) :
    (∃ value rest, c.hasReceiver = true ∧ c.items = value :: rest ∧
      c.receive = ({ c with items := rest }, .value value)) ∨
    (c.receive.1 = c ∧ ∀ value, c.receive.2 ≠ .value value) := by
  unfold receive
  cases receiver : c.hasReceiver
  · exact .inr ⟨rfl, nofun⟩
  cases items : c.items with
  | cons value rest => exact .inl ⟨value, rest, rfl, rfl, rfl⟩
  | nil => cases c.hasSender <;> exact .inr ⟨rfl, nofun⟩

theorem receive_eq_closed {c : Channel α} :
    c.receive.2 = .closed ↔ c.hasReceiver = true ∧ c.items = [] ∧ c.hasSender = false := by
  unfold receive
  cases c.hasReceiver <;> cases c.items <;> cases c.hasSender <;> simp

/-- What went into a channel came out in order, or is still there, or was lost
with the last receiver. -/
structure Carries (c : Channel α) (entered drawn : List α) : Prop where
  first : drawn <+: entered
  whole : c.hasReceiver = true → entered = drawn ++ c.items
  empty : c.hasReceiver = false → c.items = []

theorem carries_new (capacity senders receivers : Nat) :
    (new capacity senders receivers : Channel α).Carries [] [] :=
  ⟨List.prefix_rfl, fun _ => rfl, fun _ => rfl⟩

namespace Carries

variable {c : Channel α} {entered drawn : List α}

theorem push (h : c.Carries entered drawn) (receiver : c.hasReceiver = true) (v : α) :
    (c.push v).Carries (entered ++ [v]) drawn where
  first := h.first.trans (List.prefix_append _ _)
  whole _ := by simp [Channel.push, h.whole receiver]
  empty no := by
    rw [show (c.push v).hasReceiver = c.hasReceiver from rfl, receiver] at no
    cases no

theorem pop (h : c.Carries entered drawn) {v : α} {rest : List α} (items : c.items = v :: rest) :
    Carries { c with items := rest } entered (drawn ++ [v]) := by
  have receiver : c.hasReceiver = true := by
    by_contra no
    rw [h.empty (by simpa using no)] at items
    cases items
  have whole : entered = drawn ++ [v] ++ rest := by simp [h.whole receiver, items]
  refine ⟨⟨rest, whole.symm⟩, fun _ => whole, fun no => ?_⟩
  rw [show Channel.hasReceiver { c with items := rest } = c.hasReceiver from rfl, receiver] at no
  cases no

theorem dropSender (h : c.Carries entered drawn) : c.dropSender.Carries entered drawn :=
  ⟨h.first, h.whole, h.empty⟩

theorem dropReceiver (h : c.Carries entered drawn) : c.dropReceiver.Carries entered drawn where
  first := h.first
  whole left := by
    have receiver : c.hasReceiver = true := by
      by_contra no
      rw [no_receiver_dropReceiver (by simpa using no)] at left
      cases left
    rw [items_dropReceiver, if_pos left]
    exact h.whole receiver
  empty none := by rw [items_dropReceiver, none, if_neg Bool.false_ne_true]

end Carries

end Channel

end DocSieve
