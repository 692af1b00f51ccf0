import DocSieve.Proofs.Chain.Scene

/-!
# A settled chain

A chain is settled when no worker can do anything and no stage can end. It is
enough to try the moves of its stages, which are finitely many.

Of a stage that is stopped nothing is left then, since its workers could leave.
At a stage that goes on, a worker that is still there waits for one of two
things: without an item for the inlet to get one, or with a value for the outlet
to get room. A stage has ended when its last worker has left.

Key theorems: `Spot.still_cases`, `Chain.settled_iff`, `Chain.Settled.over`.
-/

namespace DocSieve

variable {σ α : Type}

theorem Spot.exists_deed {s : Spot σ α} {cancelled : Bool} {w : Nat} {worker : Worker α}
    (stop : s.stopped cancelled = true) (here : s.crew.workers[w]? = some worker)
    (stays : worker.isGone = false) : ∃ deed, s.deed? cancelled w = some deed := by
  unfold stopped at stop
  simp only [deed?, here, Option.bind_some]
  cases worker with
  | idle => exact ⟨.leave, by simp [deedOf?, stop]⟩
  | busy item => exact ⟨.transform item, rfl⟩
  | holding value => exact ⟨.leave, by simp [deedOf?, stop]⟩
  | gone => cases stays

/-- Why a worker of a stage that goes on can do nothing: it waits for an item or
for room, or has left. -/
theorem Spot.still_cases {s : Spot σ α} {cancelled : Bool} {w : Nat} {worker : Worker α}
    (still : s.deed? cancelled w = none) (going : s.stopped cancelled = false)
    (here : s.crew.workers[w]? = some worker) :
    worker = .idle ∧ s.inlet.items = [] ∧ s.inlet.hasSender = true ∨
      (∃ value, worker = .holding value) ∧ s.outlet.hasRoom = false ∨ worker = .gone := by
  unfold stopped at going
  simp only [deed?, here, Option.bind_some] at still
  cases worker with
  | idle =>
    left
    cases items : s.inlet.items with
    | nil => simpa [deedOf?, going, items] using still
    | cons item rest => simp [deedOf?, going, items] at still
  | busy item => cases still
  | holding value =>
    refine .inr (.inl ⟨⟨value, rfl⟩, ?_⟩)
    simpa [deedOf?, going] using still
  | gone => exact .inr (.inr rfl)

namespace Chain

variable {c : Chain σ α}

theorem Settled.deed?_eq_none (settled : c.Settled) {i : Nat} {s : Spot σ α}
    (spot : c.spot? i = some s) (w : Nat) : s.deed? c.cancelled w = none := by
  have hstep := settled (.poll i w)
  cases hdeed : s.deed? c.cancelled w with
  | none => rfl
  | some deed => simp [step?, spot, hdeed] at hstep

theorem Settled.canFinish_eq_false (settled : c.Settled) {i : Nat} {s : Spot σ α}
    (spot : c.spot? i = some s) : s.canFinish = false := by
  have hstep := settled (.finish i)
  cases hcan : s.canFinish with
  | false => rfl
  | true => simp [step?, spot, hcan] at hstep

theorem Settled.ended_of_allGone (settled : c.Settled) {i : Nat} {s : Spot σ α}
    (spot : c.spot? i = some s) (gone : s.crew.allGone = true) :
    s.crew.summary.isSome = true := by
  have hcan := settled.canFinish_eq_false spot
  rw [Spot.canFinish, gone, Bool.true_and] at hcan
  rw [← Option.not_isNone, hcan]
  rfl

theorem isSome_step? (m : Move) : (c.step? m).isSome = c.can m := by
  cases m with
  | poll i w =>
    cases spot : c.spot? i with
    | none => simp [step?, can, spot]
    | some s => cases hdeed : s.deed? c.cancelled w <;> simp [step?, can, spot, hdeed]
  | finish i =>
    cases spot : c.spot? i with
    | none => simp [step?, can, spot]
    | some s => cases hcan : s.canFinish <;> simp [step?, can, spot, hcan]

theorem mem_moves_of_can {m : Move} (can : c.can m = true) : m ∈ c.moves := by
  simp only [moves, List.mem_flatMap, Prod.exists, List.mem_zipIdx_iff_getElem?]
  cases m with
  | poll i w =>
    simp only [Chain.can, Option.any_eq_true] at can
    obtain ⟨s, spot, hdeed⟩ := can
    have hw : w < s.crew.workers.length := by
      by_contra hge
      simp [Spot.deed?, List.getElem?_eq_none (Nat.le_of_not_lt hge)] at hdeed
    exact ⟨s.crew, i, (spot?_eq_some.mp spot).2.1, by simp [stageMoves, hw]⟩
  | finish i =>
    simp only [Chain.can, Option.any_eq_true] at can
    obtain ⟨s, spot, -⟩ := can
    exact ⟨s.crew, i, (spot?_eq_some.mp spot).2.1, by simp [stageMoves]⟩

theorem settled_iff : c.Settled ↔ c.moves.any c.can = false := by
  constructor
  · intro settled
    refine List.any_eq_false.mpr fun m _ => ?_
    rw [← isSome_step?, settled m]
    simp
  · intro stuck m
    rw [← Option.not_isSome_iff_eq_none, isSome_step?]
    exact fun can => List.any_eq_false.mp stuck m (mem_moves_of_can can) can

/-- All workers of a stopped stage have left when the chain is settled, and the
stage has ended. -/
theorem Settled.over (settled : c.Settled) {i : Nat} {s : Spot σ α} (spot : c.spot? i = some s)
    (stop : s.stopped c.cancelled = true) :
    s.crew.allGone = true ∧ s.crew.summary.isSome = true := by
  have gone : s.crew.allGone = true := by
    by_contra hne
    simp only [Crew.allGone, List.all_eq_true, not_forall, Bool.not_eq_true] at hne
    obtain ⟨worker, hmem, stays⟩ := hne
    obtain ⟨w, here⟩ := List.mem_iff_getElem?.mp hmem
    obtain ⟨deed, hdeed⟩ := Spot.exists_deed stop here stays
    rw [settled.deed?_eq_none spot w] at hdeed
    cases hdeed
  exact ⟨gone, settled.ended_of_allGone spot gone⟩

/-- Of two stages with one worker and one slot each, the second keeps the quarter
of 8 behind that of 4, the first keeps the half of 16 behind that of 12, and 20
waits. -/
def stallingSteps : List (Step Nat) :=
  [.ask (.send 4), .move (.poll 0 0), .move (.poll 0 0), .move (.poll 0 0),
    .move (.poll 1 0), .move (.poll 1 0), .move (.poll 1 0),
    .ask (.send 8), .move (.poll 0 0), .move (.poll 0 0), .move (.poll 0 0),
    .move (.poll 1 0), .move (.poll 1 0),
    .ask (.send 12), .move (.poll 0 0), .move (.poll 0 0), .move (.poll 0 0),
    .ask (.send 16), .move (.poll 0 0), .move (.poll 0 0), .ask (.send 20)]

end Chain

end DocSieve
