import DocSieve.Proofs.Chain.Sound
import Mathlib.Data.List.Sigma

/-!
# No item is lost, and none is made up

Number the items that ever went into a stage. At any time each of them is in
exactly one place: it was never taken, or a worker has it in its hand, or its
transform failed, or a worker left with it, or its value was put out. What was
put out are the values of the last of these and nothing else. A worker leaves
with an item only when the stage is stopped, and with at most one.

An item that was never taken waits in the inlet, unless all workers have left;
then it was discarded with the inlet.

Key definition: `Scene.Conserved`.
Key theorem: `Chain.items_conserved`.
-/

namespace DocSieve

variable {σ α : Type}

namespace Scene

variable (x : Scene σ α)

/-- The items that went in and were never taken. -/
def untaken : List (Piece α) := x.entered.zipIdx.drop (Log.taken x.log).length

/-- The items that went in, by the places where they are. -/
def places : List (Piece α) :=
  x.untaken ++ x.account.inHand ++ x.account.failed ++ x.account.abandoned.map (·.2) ++
    x.account.delivered.map (·.1)

/-- Every item that went in is in one place, as it has to be there. -/
structure Conserved : Prop where
  placed : x.entered.zipIdx.Perm x.places
  /-- No item is in two places, or twice in one. -/
  apart : x.places.Nodup
  /-- What was not taken waits in the inlet, or was discarded with it. -/
  queued : x.untaken.map (·.1) = x.inlet.items ∨ x.crew.allGone = true ∧ x.inlet.items = []
  /-- A busy worker has its item in its hand, a holding one the item of its
  value, and any other nothing. -/
  held : ∀ (w : Nat) (worker : Worker α), x.crew.workers[w]? = some worker →
    worker.Grips x.crew.stage (x.account.hand w)
  /-- Nobody else has a hand. -/
  hands : x.account.hands.length = x.crew.workers.length
  failed : ∀ p ∈ x.account.failed, x.crew.stage.Yields p.1 none
  /-- Who left with an item has left for good, had a value to put out, and was
  stopped. -/
  abandoned : ∀ q ∈ x.account.abandoned, x.crew.workers[q.1]? = some .gone ∧
    x.stopped = true ∧ ∃ value, x.crew.stage.Yields q.2.1 (some value)
  /-- No worker left with two items. -/
  once : (x.account.abandoned.map (·.1)).Nodup
  /-- What was put out are the values of the delivered items. -/
  put : Log.puts x.log = x.account.delivered.map (·.2)
  delivered : ∀ d ∈ x.account.delivered, x.crew.stage.Yields d.1.1 (some d.2)
  /-- What was put out was received, is in the outlet, or was discarded with it. -/
  outlet : x.outlet.Carries (Log.puts x.log) x.fetched
  /-- If the value of an item depends on nothing else, what was put out are the
  values of the delivered items, and the failed ones have none. -/
  computed : ∀ f, x.crew.stage.Computes f →
    Log.puts x.log = x.account.delivered.filterMap (fun d => f d.1.1) ∧
      ∀ p ∈ x.account.failed, f p.1 = none

variable {x}

theorem Sound.zipIdx_entered (h : x.Sound) :
    x.entered.zipIdx = (Log.taken x.log).zipIdx ++ x.untaken := by
  obtain ⟨rest, hrest⟩ := h.inlet.first
  have hlength : (Log.taken x.log).length = (Log.taken x.log).zipIdx.length := by simp
  unfold untaken
  rw [← hrest, List.zipIdx_append, hlength, List.drop_left]

theorem Sound.placed (h : x.Sound) : x.entered.zipIdx.Perm x.places := by
  have hbalance := h.balanced.balance
  rw [← Multiset.coe_eq_coe, h.zipIdx_entered, ← Multiset.coe_add, hbalance]
  simp only [places, ← Multiset.coe_add]
  abel

theorem Sound.queued (h : x.Sound) :
    x.untaken.map (·.1) = x.inlet.items ∨ x.crew.allGone = true ∧ x.inlet.items = [] := by
  cases gone : x.crew.allGone
  · left
    have hwhole := h.inlet.whole (by rw [h.receiver, gone]; rfl)
    have hitems := congrArg (List.map Prod.fst) h.zipIdx_entered
    rw [List.map_append, List.zipIdx_map_fst, List.zipIdx_map_fst, hwhole] at hitems
    exact (List.append_cancel_left hitems).symm
  · exact .inr ⟨rfl, h.inlet.empty (by rw [h.receiver, gone]; rfl)⟩

theorem Sound.conserved (h : x.Sound) : x.Conserved where
  placed := h.placed
  apart := by
    rw [← h.placed.nodup_iff]
    exact (List.nodup_zipIdx_map_snd _).of_map _
  queued := h.queued
  held := h.balanced.grips
  hands := h.balanced.hands
  failed := h.balanced.failed
  abandoned q hq :=
    ⟨h.balanced.gone q hq, h.balanced.stopped (List.ne_nil_of_mem hq), h.balanced.abandoned q hq⟩
  once := h.balanced.once
  put := h.balanced.puts
  delivered := h.balanced.delivered
  outlet := h.outlet
  computed f computes := ⟨h.balanced.puts_eq_filterMap computes,
    fun p hp => computes.eq_of_yields (h.balanced.failed p hp)⟩

end Scene

namespace Chain

/-- **Items are conserved.** After every run of every chain, every item that
went into a stage is in exactly one place. -/
theorem items_conserved {slots i : Nat} {stages : List (Stage σ α)} {stage : Stage σ α}
    {shared : σ} {first c : Chain σ α} {steps : List (Step α)} {h : History α}
    (begun : start slots stages shared = .ok first) (run : replay steps first = some (c, h))
    (here : stages[i]? = some stage) :
    ∃ s, c.spot? i = some s ∧ s.crew.stage = stage ∧ (c.scene h i s).Conserved := by
  obtain ⟨s, hs, hstage⟩ := exists_spot_of_replay begun run here
  exact ⟨s, hs, hstage, ((sound_of_replay begun run).stage hs).conserved⟩

/-- A worker fails on 3, makes the half of 4 and is cancelled; 6 waits. -/
def halvingSteps : List (Step Nat) :=
  [.ask (.send 3), .ask (.send 4), .move (.poll 0 0), .move (.poll 0 0), .ask (.send 6),
    .move (.poll 0 0), .move (.poll 0 0), .ask .cancel, .move (.poll 0 0)]

theorem items_conserved_halving :
    ∃ first c h s, start 2 [halving "halve" 1 1] () = .ok first ∧
      replay halvingSteps first = some (c, h) ∧ c.spot? 0 = some s ∧
      (c.scene h 0 s).Conserved ∧ (c.scene h 0 s).account.failed = [(3, 0)] ∧
      (c.scene h 0 s).account.abandoned = [(0, (4, 1))] ∧ (c.scene h 0 s).untaken = [(6, 2)] := by
  obtain ⟨s, hs, -, hconserved⟩ :=
    items_conserved (rfl : start 2 [halving "halve" 1 1] () = .ok _)
      (rfl : replay halvingSteps _ = some (_, _)) (rfl : _[0]? = some _)
  obtain rfl := Option.some.inj hs
  exact ⟨_, _, _, _, rfl, rfl, rfl, hconserved, rfl, rfl, rfl⟩

end Chain

end DocSieve
