import DocSieve.Proofs.Chain.Scene
import Mathlib.Data.List.Perm.Basic
import Mathlib.Algebra.Order.Group.Multiset
import Mathlib.Tactic.Abel

/-!
# The account of a stage

Every item that a stage takes gets a number, and the log of the stage tells
where each numbered item is: in the hand of a worker, failed, abandoned by a
worker that left, or put out as a value. `Account.record` moves one item at a
time and knows nothing of the stage. That the account and the crew agree
(`Crew.Balanced`) is what the steps of a stage preserve: a worker that takes
has empty hands, and one that drops, puts out or leaves has in its hand what
the account says.

Counted, this is a balance of the stage: what it took is what its workers have in
hand, what failed, what was abandoned and what was put out.

Key definitions: `Account`, `Log.account`, `Crew.Balanced`, `Crew.laden`.
Key theorems: `Crew.Balanced.take`, `Crew.Balanced.make`, `Crew.Balanced.fail`,
`Crew.Balanced.put`, `Crew.Balanced.leave`, `Crew.Balanced.taken_length`.
-/

namespace DocSieve

variable {σ α : Type}

/-- An item and how many were taken before it. -/
abbrev Piece (α : Type) := α × Nat

/-- Where the items are that a stage took. -/
structure Account (α : Type) where
  taken : Nat
  /-- What each worker has in its hand. -/
  hands : List (Option (Piece α))
  failed : List (Piece α)
  /-- The worker that left, and what it had in its hand. -/
  abandoned : List (Nat × Piece α)
  /-- The item, and the value that was put out for it. -/
  delivered : List (Piece α × α)

namespace Account

/-- Nothing was taken. -/
def start (workers : Nat) : Account α := ⟨0, List.replicate workers none, [], [], []⟩

variable (a : Account α)

/-- What a worker has in its hand. -/
def hand (w : Nat) : Option (Piece α) := a.hands[w]?.join

/-- What all workers have in their hands. -/
def inHand : List (Piece α) := a.hands.filterMap id

/-- The account after a worker did something. -/
def record : Nat × Feat α → Account α
  | (w, .took item) =>
    { a with taken := a.taken + 1, hands := a.hands.set w (some (item, a.taken)) }
  | (_, .made _ _) => a
  | (w, .failed _) =>
    { a with hands := a.hands.set w none, failed := a.failed ++ (a.hand w).toList }
  | (w, .put value) =>
    { a with
      hands := a.hands.set w none
      delivered := a.delivered ++ (a.hand w).toList.map fun piece => (piece, value) }
  | (w, .left) =>
    { a with
      hands := a.hands.set w none
      abandoned := a.abandoned ++ (a.hand w).toList.map fun piece => (w, piece) }

end Account

/-- The account that a log gives. -/
def Log.account (workers : Nat) (log : Log α) : Account α :=
  log.foldl Account.record (.start workers)

theorem Log.account_append (workers : Nat) (log : Log α) (entry : Nat × Feat α) :
    account workers (log ++ [entry]) = (account workers log).record entry := by
  simp only [account, List.foldl_append, List.foldl_cons, List.foldl_nil]

/-- One place changes what it holds, the others do not. -/
theorem filterMap_set_perm {β γ : Type} (f : β → Option γ) {l : List β} {w : Nat} {old : β}
    (h : l[w]? = some old) (new : β) :
    ((l.set w new).filterMap f : Multiset γ) + (f old).toList = l.filterMap f + (f new).toList := by
  obtain ⟨hw, rfl⟩ := List.getElem?_eq_some_iff.mp h
  have hnew := (List.set_perm_cons_eraseIdx hw new).filterMap f
  have hold := ((List.getElem_cons_eraseIdx_perm hw).filterMap f).symm
  rw [← Multiset.coe_eq_coe] at hnew hold
  rw [hnew, hold]
  have split : ∀ (o : β) (t : List β),
      ((o :: t).filterMap f : Multiset γ) = (f o).toList + t.filterMap f := by
    intro o t
    cases h : f o <;> simp [h]
  rw [split, split]
  abel

/-- The item whose transform a worker is running. -/
def Worker.running? : Worker α → Option α
  | .busy item => some item
  | _ => none

def Crew.running (crew : Crew σ α) : List α := crew.workers.filterMap (·.running?)

theorem Crew.running_eq_nil {crew : Crew σ α} (free : ∀ item, .busy item ∉ crew.workers) :
    crew.running = [] := by
  refine List.filterMap_eq_nil_iff.mpr fun worker hmem => ?_
  cases worker with
  | busy item => exact absurd hmem (free item)
  | idle | holding _ | gone => rfl

/-- What a worker does goes with what it has in its hand. -/
def Worker.Grips (stage : Stage σ α) : Worker α → Option (Piece α) → Prop
  | .idle, hand => hand = none
  | .busy item, hand => ∃ number, hand = some (item, number)
  | .holding value, hand => ∃ piece, hand = some piece ∧ stage.Yields piece.1 (some value)
  | .gone, hand => hand = none

/-- The account of what a crew did goes with what the crew does now. -/
structure Crew.Balanced (crew : Crew σ α) (log : Log α) (stopped : Bool) (a : Account α) :
    Prop where
  hands : a.hands.length = crew.workers.length
  grips : ∀ (w : Nat) (worker : Worker α), crew.workers[w]? = some worker →
    worker.Grips crew.stage (a.hand w)
  taken : a.taken = (Log.taken log).length
  balance : ((Log.taken log).zipIdx : Multiset (Piece α)) =
    a.inHand + a.failed + a.abandoned.map (·.2) + a.delivered.map (·.1)
  ran : (Log.taken log : Multiset α) = Log.ran log + crew.running
  puts : Log.puts log = a.delivered.map (·.2)
  failures : Log.failed log = a.failed.map (·.1)
  delivered : ∀ d ∈ a.delivered, crew.stage.Yields d.1.1 (some d.2)
  failed : ∀ p ∈ a.failed, crew.stage.Yields p.1 none
  abandoned : ∀ q ∈ a.abandoned, ∃ value, crew.stage.Yields q.2.1 (some value)
  gone : ∀ q ∈ a.abandoned, crew.workers[q.1]? = some .gone
  once : (a.abandoned.map (·.1)).Nodup
  stopped : a.abandoned ≠ [] → stopped = true

theorem Crew.Balanced.length_failed {crew : Crew σ α} {log : Log α} {stopped : Bool}
    {a : Account α} (h : crew.Balanced log stopped a) :
    (Log.failed log).length = a.failed.length := by
  rw [h.failures, List.length_map]

theorem Crew.Balanced.length_puts {crew : Crew σ α} {log : Log α} {stopped : Bool}
    {a : Account α} (h : crew.Balanced log stopped a) :
    (Log.puts log).length = a.delivered.length := by
  rw [h.puts, List.length_map]

theorem Crew.Balanced.puts_eq_filterMap {crew : Crew σ α} {log : Log α} {stopped : Bool}
    {a : Account α} {f : α → Option α} (h : crew.Balanced log stopped a)
    (computes : crew.stage.Computes f) : Log.puts log = a.delivered.filterMap fun d => f d.1.1 := by
  have hvalues : ∀ d ∈ a.delivered, f d.1.1 = some d.2 :=
    fun d hd => computes.eq_of_yields (h.delivered d hd)
  rw [h.puts, List.filterMap_congr hvalues, List.filterMap_eq_map']

def Worker.isLaden : Worker α → Bool
  | .busy _ | .holding _ => true
  | .idle | .gone => false

/-- The number of workers with an item in their hand. -/
def Crew.laden (crew : Crew σ α) : Nat := crew.workers.countP (·.isLaden)

theorem Crew.laden_of_holding {crew : Crew σ α}
    (holding : ∀ worker ∈ crew.workers, ∃ value, worker = .holding value) :
    crew.laden = crew.workers.length := by
  refine List.countP_eq_length.mpr fun worker hmem => ?_
  obtain ⟨value, rfl⟩ := holding worker hmem
  rfl

theorem Crew.laden_eq_zero {crew : Crew σ α} (free : ∀ item, .busy item ∉ crew.workers)
    (nobody : ∀ value, .holding value ∉ crew.workers) : crew.laden = 0 := by
  refine List.countP_eq_zero.mpr fun worker hmem => ?_
  cases worker with
  | busy item => exact absurd hmem (free item)
  | holding value => exact absurd hmem (nobody value)
  | idle | gone => exact Bool.false_ne_true

theorem Worker.Grips.isSome_eq {stage : Stage σ α} {worker : Worker α} {hand : Option (Piece α)}
    (h : worker.Grips stage hand) : hand.isSome = worker.isLaden := by
  cases worker with
  | idle =>
    rw [show hand = none from h]
    rfl
  | busy item =>
    obtain ⟨number, rfl⟩ := h
    rfl
  | holding value =>
    obtain ⟨piece, rfl, -⟩ := h
    rfl
  | gone =>
    rw [show hand = none from h]
    rfl

theorem Crew.Balanced.inHand_length {crew : Crew σ α} {log : Log α} {stopped : Bool}
    {a : Account α} (h : crew.Balanced log stopped a) : a.inHand.length = crew.laden := by
  have same : a.hands.map Option.isSome = crew.workers.map Worker.isLaden := by
    refine List.ext_getElem (by simp [h.hands]) fun w hw hw' => ?_
    rw [List.length_map] at hw hw'
    have hgrips := h.grips w _ (List.getElem?_eq_getElem hw')
    rw [Account.hand, List.getElem?_eq_getElem hw, Option.join_some] at hgrips
    rw [List.getElem_map, List.getElem_map]
    exact hgrips.isSome_eq
  have count := congrArg (List.countP id) same
  rw [List.countP_map, List.countP_map] at count
  rw [Account.inHand, List.length_filterMap_eq_countP]
  exact count

/-- **Every item that was taken is counted once.** -/
theorem Crew.Balanced.taken_length {crew : Crew σ α} {log : Log α} {stopped : Bool}
    {a : Account α} (h : crew.Balanced log stopped a) : (Log.taken log).length =
      crew.laden + (Log.failed log).length + a.abandoned.length + (Log.puts log).length := by
  have hcard := congrArg Multiset.card h.balance
  simp only [Multiset.card_add, Multiset.coe_card, List.length_zipIdx, List.length_map] at hcard
  rw [hcard, h.inHand_length, h.length_failed, h.length_puts]

/-- An item that was taken has been transformed, or is being transformed. -/
theorem Crew.Balanced.ran_length {crew : Crew σ α} {log : Log α} {stopped : Bool}
    {a : Account α} (h : crew.Balanced log stopped a) :
    (Log.taken log).length = (Log.ran log).length + crew.running.length := by
  have hcard := congrArg Multiset.card h.ran
  rwa [Multiset.card_add, Multiset.coe_card, Multiset.coe_card, Multiset.coe_card] at hcard

theorem Crew.Balanced.abandoned_length_le {crew : Crew σ α} {log : Log α} {stopped : Bool}
    {a : Account α} (h : crew.Balanced log stopped a) :
    a.abandoned.length ≤ crew.workers.length := by
  have hsub : a.abandoned.map (·.1) ⊆ List.range crew.workers.length := by
    intro w hw
    obtain ⟨q, hq, rfl⟩ := List.mem_map.mp hw
    exact List.mem_range.mpr (List.getElem?_eq_some_iff.mp (h.gone q hq)).1
  have hle := (h.once.subperm hsub).length_le
  rwa [List.length_map, List.length_range] at hle

/-! ### One worker at a time -/

theorem Account.hand_of_set {a : Account α} {hands : List (Option (Piece α))} {w w' : Nat}
    {piece : Option (Piece α)} (hw : w < hands.length) (e : a.hands = hands.set w piece) :
    a.hand w' = if w' = w then piece else hands[w']?.join := by
  unfold hand
  rw [e, List.getElem?_set]
  by_cases h : w = w'
  · subst h
    simp [hw]
  · simp [h, Ne.symm h]

section Changes

variable {crew : Crew σ α} {log : Log α} {stopped : Bool} {a : Account α} {w : Nat}
  {worker : Worker α}

theorem Crew.Balanced.lt_hands (h : crew.Balanced log stopped a)
    (here : crew.workers[w]? = some worker) : w < a.hands.length := by
  rw [h.hands]
  exact (List.getElem?_eq_some_iff.mp here).1

theorem Crew.Balanced.getElem?_hands (h : crew.Balanced log stopped a)
    (here : crew.workers[w]? = some worker) : a.hands[w]? = some (a.hand w) := by
  have hw := h.lt_hands here
  simp [Account.hand, hw]

theorem Crew.Balanced.inHand_set (h : crew.Balanced log stopped a)
    (here : crew.workers[w]? = some worker) (piece : Option (Piece α)) :
    ((a.hands.set w piece).filterMap id : Multiset (Piece α)) + (a.hand w).toList =
      a.hands.filterMap id + piece.toList :=
  filterMap_set_perm id (h.getElem?_hands here) piece

/-- The other workers keep what they have in hand. -/
theorem Crew.Balanced.grips_set {a' : Account α} {piece : Option (Piece α)} {new : Worker α}
    (h : crew.Balanced log stopped a) (here : crew.workers[w]? = some worker)
    (e : a'.hands = a.hands.set w piece) (grips : new.Grips crew.stage piece) (w' : Nat)
    (worker' : Worker α) (here' : (crew.workers.set w new)[w']? = some worker') :
    worker'.Grips crew.stage (a'.hand w') := by
  rw [Account.hand_of_set (h.lt_hands here) e]
  rcases getElem?_set_some here' with ⟨rfl, rfl⟩ | ⟨hne, here'⟩
  · rwa [if_pos rfl]
  · rw [if_neg hne]
    exact h.grips w' worker' here'

/-- Who left with an item is not the one that does something. -/
theorem Crew.Balanced.ne_of_abandoned (h : crew.Balanced log stopped a)
    (here : crew.workers[w]? = some worker) (stays : worker ≠ .gone) (q : Nat × Piece α)
    (hq : q ∈ a.abandoned) : q.1 ≠ w := by
  rintro rfl
  have hgone := h.gone q hq
  rw [here] at hgone
  exact stays (Option.some.inj hgone)

theorem Crew.Balanced.gone_set {new : Worker α} (h : crew.Balanced log stopped a)
    (here : crew.workers[w]? = some worker) (stays : worker ≠ .gone) (q : Nat × Piece α)
    (hq : q ∈ a.abandoned) : (crew.workers.set w new)[q.1]? = some .gone := by
  rw [List.getElem?_set_ne (Ne.symm (h.ne_of_abandoned here stays q hq))]
  exact h.gone q hq

theorem Crew.Balanced.take {item : α} (h : crew.Balanced log stopped a)
    (idle : crew.workers[w]? = some .idle) :
    Crew.Balanced ((crew.setWorker w (.busy item)).count w .take)
      (log ++ [(w, .took item)]) stopped (a.record (w, .took item)) := by
  have htaken : Log.taken (log ++ [(w, .took item)]) = Log.taken log ++ [item] := by
    simp [Feat.took?]
  have hran : Log.ran (log ++ [(w, .took item)]) = Log.ran log := by simp [Feat.ran?]
  have hputs : Log.puts (log ++ [(w, .took item)]) = Log.puts log := by simp [Feat.put?]
  have hfailed : Log.failed (log ++ [(w, .took item)]) = Log.failed log := by simp [Feat.failed?]
  have hhand : a.hand w = none := h.grips w _ idle
  have hset := h.inHand_set idle (some (item, a.taken))
  have hrun := filterMap_set_perm Worker.running? idle (.busy item)
  simp only [hhand, Option.toList_none, Multiset.coe_nil, add_zero, Option.toList_some,
    Worker.running?] at hset hrun
  refine ⟨?_, h.grips_set idle rfl ⟨a.taken, rfl⟩, ?_, ?_, ?_, ?_, ?_, h.delivered, h.failed,
    h.abandoned, h.gone_set idle (by simp), h.once, h.stopped⟩
  · simp [Account.record, Crew.setWorker, h.hands]
  · simp [Account.record, htaken, h.taken]
  · rw [htaken, List.zipIdx_append, ← Multiset.coe_add, h.balance]
    simp only [Account.record, Account.inHand, hset, List.zipIdx_cons, List.zipIdx_nil, ← h.taken,
      Nat.zero_add]
    abel
  · rw [htaken, hran, ← Multiset.coe_add, h.ran]
    simp only [Crew.running, Crew.workers_count, Crew.setWorker, hrun]
    abel
  · rw [hputs]
    exact h.puts
  · rw [hfailed]
    exact h.failures

theorem Crew.Balanced.make {item value : α} (h : crew.Balanced log stopped a)
    (busy : crew.workers[w]? = some (.busy item)) (yields : crew.stage.Yields item (some value)) :
    Crew.Balanced (crew.setWorker w (.holding value)) (log ++ [(w, .made item value)]) stopped
      (a.record (w, .made item value)) := by
  have htaken : Log.taken (log ++ [(w, .made item value)]) = Log.taken log := by simp [Feat.took?]
  have hran : Log.ran (log ++ [(w, .made item value)]) = Log.ran log ++ [item] := by
    simp [Feat.ran?]
  have hputs : Log.puts (log ++ [(w, .made item value)]) = Log.puts log := by simp [Feat.put?]
  have hfailed : Log.failed (log ++ [(w, .made item value)]) = Log.failed log := by
    simp [Feat.failed?]
  obtain ⟨number, hhand⟩ := h.grips w _ busy
  have hrun := filterMap_set_perm Worker.running? busy (.holding value)
  simp only [Option.toList_none, Multiset.coe_nil, add_zero, Option.toList_some,
    Worker.running?] at hrun
  have hsame : a.hands = a.hands.set w (a.hand w) :=
    (set_eq_of_getElem? (h.getElem?_hands busy)).symm
  refine ⟨?_, h.grips_set busy hsame ⟨_, hhand, yields⟩, ?_, ?_, ?_, ?_, ?_, h.delivered, h.failed,
    h.abandoned, h.gone_set busy (by simp), h.once, h.stopped⟩
  · simp [Account.record, Crew.setWorker, h.hands]
  · rw [htaken]
    exact h.taken
  · rw [htaken]
    exact h.balance
  · rw [htaken, hran, ← Multiset.coe_add, h.ran]
    simp only [Crew.running, Crew.setWorker, ← hrun]
    abel
  · rw [hputs]
    exact h.puts
  · rw [hfailed]
    exact h.failures

theorem Crew.Balanced.fail {item : α} (h : crew.Balanced log stopped a)
    (busy : crew.workers[w]? = some (.busy item)) (yields : crew.stage.Yields item none) :
    Crew.Balanced ((crew.setWorker w .idle).count w .fail)
      (log ++ [(w, .failed item)]) stopped (a.record (w, .failed item)) := by
  have htaken : Log.taken (log ++ [(w, .failed item)]) = Log.taken log := by simp [Feat.took?]
  have hran : Log.ran (log ++ [(w, .failed item)]) = Log.ran log ++ [item] := by simp [Feat.ran?]
  have hputs : Log.puts (log ++ [(w, .failed item)]) = Log.puts log := by simp [Feat.put?]
  have hfailed : Log.failed (log ++ [(w, .failed item)]) = Log.failed log ++ [item] := by
    simp [Feat.failed?]
  obtain ⟨number, hhand⟩ := h.grips w _ busy
  have hset := h.inHand_set busy none
  have hrun := filterMap_set_perm Worker.running? busy .idle
  simp only [hhand, Option.toList_none, Multiset.coe_nil, add_zero, Option.toList_some,
    Worker.running?] at hset hrun
  refine ⟨?_, h.grips_set busy rfl rfl, ?_, ?_, ?_, ?_, ?_, h.delivered, ?_,
    h.abandoned, h.gone_set busy (by simp), h.once, h.stopped⟩
  · simp [Account.record, Crew.setWorker, h.hands]
  · rw [htaken]
    exact h.taken
  · rw [htaken, h.balance]
    simp only [Account.record, Account.inHand, hhand, Option.toList_some, ← Multiset.coe_add,
      ← hset]
    abel
  · rw [htaken, hran, ← Multiset.coe_add, h.ran]
    simp only [Crew.running, Crew.workers_count, Crew.setWorker, ← hrun]
    abel
  · rw [hputs]
    exact h.puts
  · simp [hfailed, h.failures, Account.record, hhand]
  · intro p hp
    simp only [Account.record, hhand, Option.toList_some, List.mem_append, List.mem_singleton] at hp
    rcases hp with hp | rfl
    · exact h.failed p hp
    · exact yields

theorem Crew.Balanced.put {value : α} (h : crew.Balanced log stopped a)
    (holding : crew.workers[w]? = some (.holding value)) :
    Crew.Balanced ((crew.setWorker w .idle).count w .deliver)
      (log ++ [(w, .put value)]) stopped (a.record (w, .put value)) := by
  have htaken : Log.taken (log ++ [(w, .put value)]) = Log.taken log := by simp [Feat.took?]
  have hran : Log.ran (log ++ [(w, .put value)]) = Log.ran log := by simp [Feat.ran?]
  have hputs : Log.puts (log ++ [(w, .put value)]) = Log.puts log ++ [value] := by simp [Feat.put?]
  have hfailed : Log.failed (log ++ [(w, .put value)]) = Log.failed log := by simp [Feat.failed?]
  obtain ⟨piece, hhand, yields⟩ := h.grips w _ holding
  have hset := h.inHand_set holding none
  have hrun := filterMap_set_perm Worker.running? holding .idle
  simp only [hhand, Option.toList_none, Multiset.coe_nil, add_zero, Option.toList_some,
    Worker.running?] at hset hrun
  refine ⟨?_, h.grips_set holding rfl rfl, ?_, ?_, ?_, ?_, ?_, ?_, h.failed,
    h.abandoned, h.gone_set holding (by simp), h.once, h.stopped⟩
  · simp [Account.record, Crew.setWorker, h.hands]
  · rw [htaken]
    exact h.taken
  · rw [htaken, h.balance]
    simp only [Account.record, Account.inHand, hhand, Option.toList_some, List.map_append,
      List.map_cons, List.map_nil, ← Multiset.coe_add, ← hset]
    abel
  · rw [htaken, hran, h.ran]
    simp only [Crew.running, Crew.workers_count, Crew.setWorker, hrun]
  · simp [hputs, h.puts, Account.record, hhand]
  · rw [hfailed]
    exact h.failures
  · intro d hd
    simp only [Account.record, hhand, Option.toList_some, List.map_cons, List.map_nil,
      List.mem_append, List.mem_singleton] at hd
    rcases hd with hd | rfl
    · exact h.delivered d hd
    · exact yields

/-- A worker that leaves abandons what it has in its hand, which is nothing
unless the stage is stopped. -/
theorem Crew.Balanced.leave (h : crew.Balanced log stopped a)
    (here : crew.workers[w]? = some worker)
    (reason : worker = .idle ∨ (∃ value, worker = .holding value) ∧ stopped = true) :
    Crew.Balanced (crew.leave w) (log ++ [(w, .left)]) stopped (a.record (w, .left)) := by
  have htaken : Log.taken (log ++ [(w, .left)]) = Log.taken log := by simp [Feat.took?]
  have hran : Log.ran (log ++ [(w, .left)]) = Log.ran log := by simp [Feat.ran?]
  have hputs : Log.puts (log ++ [(w, .left)]) = Log.puts log := by simp [Feat.put?]
  have hfailed : Log.failed (log ++ [(w, .left)]) = Log.failed log := by simp [Feat.failed?]
  have stays : worker ≠ .gone := by
    rcases reason with rfl | ⟨⟨value, rfl⟩, -⟩ <;> simp
  have idle : worker.running? = none := by
    rcases reason with rfl | ⟨⟨value, rfl⟩, -⟩ <;> rfl
  have hset := h.inHand_set here none
  have hrun := filterMap_set_perm Worker.running? here .gone
  rw [idle, show (Worker.gone : Worker α).running? = none from rfl] at hrun
  simp only [Option.toList_none, Multiset.coe_nil, add_zero] at hset hrun
  have hempty : stopped = false → a.hand w = none := by
    intro going
    rcases reason with rfl | ⟨-, hstop⟩
    · exact h.grips w _ here
    · rw [going] at hstop
      cases hstop
  refine ⟨?_, h.grips_set here rfl rfl, ?_, ?_, ?_, ?_, ?_, h.delivered, h.failed, ?_, ?_, ?_, ?_⟩
  · simp [Account.record, h.hands]
  · rw [htaken]
    exact h.taken
  · rw [htaken, h.balance]
    simp only [Account.record, Account.inHand, List.map_append, List.map_map, Function.comp_def,
      List.map_id', ← Multiset.coe_add, ← hset]
    abel
  · rw [htaken, hran, h.ran]
    simp only [Crew.running, Crew.workers_leave, hrun]
  · rw [hputs]
    exact h.puts
  · rw [hfailed]
    exact h.failures
  · intro q hq
    simp only [Account.record, List.mem_append, List.mem_map, Option.mem_toList] at hq
    rcases hq with hq | ⟨piece, hpiece, rfl⟩
    · exact h.abandoned q hq
    -- only who holds a value has an item to leave with
    rcases reason with rfl | ⟨⟨value, rfl⟩, -⟩
    · rw [show a.hand w = none from h.grips w _ here] at hpiece
      cases hpiece
    · obtain ⟨piece', hhand, yields⟩ := h.grips w _ here
      rw [hhand] at hpiece
      obtain rfl := Option.some.inj hpiece
      exact ⟨value, yields⟩
  · intro q hq
    simp only [Account.record, List.mem_append, List.mem_map] at hq
    rcases hq with hq | ⟨piece, -, rfl⟩
    · exact h.gone_set here stays q hq
    · simp [(List.getElem?_eq_some_iff.mp here).1]
  · simp only [Account.record, List.map_append, List.map_map]
    rw [List.nodup_append]
    refine ⟨h.once, ?_, ?_⟩
    · cases a.hand w <;> simp
    · intro x hx y hy
      obtain ⟨q, hq, rfl⟩ := List.mem_map.mp hx
      obtain ⟨piece, -, rfl⟩ := List.mem_map.mp hy
      exact h.ne_of_abandoned here stays q hq
  · intro hne
    by_contra going
    rw [Bool.not_eq_true] at going
    simp only [Account.record, hempty going, Option.toList_none, List.map_nil,
      List.append_nil] at hne
    rw [h.stopped hne] at going
    cases going

theorem Crew.Balanced.stop {stopped' : Bool} (h : crew.Balanced log stopped a)
    (stop : stopped = true → stopped' = true) : crew.Balanced log stopped' a :=
  { h with stopped := fun hne => stop (h.stopped hne) }

end Changes

end DocSieve
