import DocSieve.Proofs.Chain.Calm
import DocSieve.Proofs.Chain.Single

/-!
# The order of moves does not matter

Take a chain whose stages have one worker each and leave the shared state to each
other, and let it be neither cancelled nor left by its receiver. Of two moves that it
can make, each can be made after the other, and both orders come to the same
(`Orderly.diamond`): a worker that leaves has seen that its stage gets no more items, so
the stage before it has ended and has no move. Hence all runs of moves from one state
end in the same settled state, after the same number of moves, and what the chain
answers when it is asked in settled states does not depend on the order of its moves.

Key definitions: `Chain.Orderly`, `Chain.Serves`, `Chain.serveAll`.
Key theorems: `Chain.Orderly.diamond`, `Chain.Orderly.completes`,
`Chain.settling_confluent`.
-/

namespace DocSieve

variable {σ α : Type}

namespace Chain

/-- What holds of a chain in which the order of moves does not matter. -/
structure Orderly (c : Chain σ α) (h : History α) : Prop where
  sound : c.Sound h
  calm : c.Calm h
  undisturbed : c.Undisturbed
  single : ∀ stage ∈ c.crews.map (·.stage), stage.workers = 1
  independent : (c.crews.map (·.stage)).Pairwise Stage.Independent

variable {c next d last : Chain σ α} {h : History α}

namespace Orderly

/-- Nothing that happens to an orderly chain makes a difference, except that it is
cancelled or left. -/
theorem advance {o : Occurrence α} (hc : c.Orderly h) (step : c.Advance o next)
    (cancel : ∀ answer, o ≠ .asked .cancel answer) (drop : ∀ answer, o ≠ .asked .drop answer) :
    next.Orderly (h ++ [o]) where
  sound := hc.sound.advance step
  calm i s' hs' := by
    obtain ⟨s, hs, n⟩ := next_of_advance hc.sound.formed hc.sound.guarded step hs'
    exact n.calm (hc.sound.stage hs) (hc.sound.unforced hc.undisturbed hc.calm hs) (hc.calm hs)
  undisturbed := hc.undisturbed.advance step cancel drop
  single := step.stages ▸ hc.single
  independent := step.stages ▸ hc.independent

theorem move {m : Move} (hc : c.Orderly h) (step : c.step? m = some next) :
    ∃ h', next.Orderly h' := by
  obtain ⟨o, hstep⟩ := exists_advance?_move step
  refine ⟨_, hc.advance (advance_of_advance? hstep) ?_ ?_⟩ <;>
  · rintro answer rfl
    cases eq_ask_of_asked hstep

theorem comes {n : Nat} (hc : c.Orderly h) (run : c.Comes n d) : ∃ h', d.Orderly h' := by
  induction run generalizing h with
  | refl c => exact ⟨h, hc⟩
  | move step _ ih =>
    obtain ⟨h', hnext⟩ := hc.move step
    exact ih hnext

theorem act (hc : c.Orderly h) {action : Action α} (cancel : action ≠ .cancel)
    (drop : action ≠ .drop) : ∃ h', (c.act action).1.Orderly h' := by
  refine ⟨_, hc.advance (c.advance_of_act action) ?_ ?_⟩
  · rintro answer asked
    exact cancel (Occurrence.asked.inj asked).1
  · rintro answer asked
    exact drop (Occurrence.asked.inj asked).1

theorem length_workers (hc : c.Orderly h) (i : Nat) (s : Spot σ α) (spot : c.spot? i = some s) :
    s.crew.workers.length = 1 := by
  have hcrew := (spot?_eq_some.mp spot).2.1
  have staffed : s.crew.workers.length = s.crew.stage.workers := (hc.sound.stage spot).staffed
  rw [staffed]
  exact hc.single _ (List.mem_map_of_mem (List.mem_of_getElem? hcrew))

theorem stage_independent (hc : c.Orderly h) {i j : Nat} {s s' : Spot σ α} (apart : i ≠ j)
    (spot : c.spot? i = some s) (spot' : c.spot? j = some s') :
    s.crew.stage.Independent s'.crew.stage := by
  obtain ⟨hi, hs⟩ := List.getElem?_eq_some_iff.mp (spot?_eq_some.mp spot).2.1
  obtain ⟨hj, hs'⟩ := List.getElem?_eq_some_iff.mp (spot?_eq_some.mp spot').2.1
  have hpairs := List.pairwise_iff_getElem.mp (List.pairwise_map.mp hc.independent)
  rw [← hs, ← hs']
  rcases Nat.lt_or_gt_of_ne apart with lt | gt
  · exact hpairs i j hi hj lt
  · exact (hpairs j i hj hi gt).symm

/-- **Who leaves is the last to go on**: the stage before it has ended. -/
theorem turn?_before (hc : c.Orderly h) {i : Nat} {s s' : Spot σ α} (spot : c.spot? i = some s)
    (spot' : c.spot? (i + 1) = some s') (leaves : s'.turn? c.cancelled = some (.work .leave)) :
    s.turn? c.cancelled = none := by
  have does := Spot.deed?_of_turn? leaves
  have unforced : s'.stopped c.cancelled ≠ true := by
    intro stop
    rw [Spot.deed?_of_allGone (hc.sound.unforced hc.undisturbed hc.calm spot' stop)] at does
    cases does
  have closed : s'.inlet.hasSender = false := by
    cases Spot.does_of_deed? does with
    | leave _ reason =>
      rcases reason with ⟨-, stop | ⟨-, closed⟩⟩ | ⟨-, stop⟩
      · exact absurd stop unforced
      · exact closed
      · exact absurd stop unforced
  obtain ⟨before, hbefore, same⟩ := hc.sound.formed.spot_pred spot'
  obtain rfl := Option.some.inj (spot.symm.trans hbefore)
  have hs := hc.sound.stage spot
  have closed' : s.outlet.hasSender = false := same ▸ closed
  exact Spot.turn?_of_ended (hs.gone_of_closed closed') (hs.ended_of_closed closed')

/-- **Two moves come together again**, each made after the other. -/
theorem diamond (hc : c.Orderly h) {m m' : Move} (step : c.step? m = some next)
    (step' : c.step? m' = some d) :
    next = d ∨ ∃ last, next.step? m' = some last ∧ d.step? m = some last := by
  obtain ⟨i, s, t, spot, turn, rfl, rfl⟩ := turn_of_step? hc.length_workers step
  obtain ⟨j, s', t', spot', turn', rfl, rfl⟩ := turn_of_step? hc.length_workers step'
  by_cases apart : i = j
  · subst apart
    obtain rfl := Option.some.inj (spot.symm.trans spot')
    obtain rfl := Option.some.inj (turn.symm.trans turn')
    exact .inl rfl
  have indep := hc.stage_independent apart spot spot'
  have right : i + 1 = j → t' ≠ .work .leave := by
    rintro rfl rfl
    rw [hc.turn?_before spot spot' turn'] at turn
    cases turn
  have left : j + 1 = i → t ≠ .work .leave := by
    rintro rfl rfl
    rw [hc.turn?_before spot' spot turn] at turn'
    cases turn'
  refine .inr ⟨_, step?_apply apart spot' turn' indep right left, ?_⟩
  rw [turns_comm apart spot spot' turn turn' indep right left]
  exact step?_apply (Ne.symm apart) spot turn indep.symm left right

/-! ### Runs of moves -/

theorem completes_move (hc : c.Orderly h) {n : Nat} {m : Move} (run : c.Comes n last)
    (settled : last.Settled) (step : c.step? m = some next) :
    ∃ k, n = k + 1 ∧ next.Comes k last := by
  induction run generalizing h next with
  | refl c =>
    rw [settled m] at step
    cases step
  | @move n c first last m' step' rest ih =>
    refine ⟨n, rfl, ?_⟩
    rcases hc.diamond step' step with rfl | ⟨both, after, after'⟩
    · exact rest
    · obtain ⟨h', hfirst⟩ := hc.move step'
      obtain ⟨k, rfl, rest'⟩ := ih hfirst settled after
      exact .move after' rest'

/-- **Any run of moves is a first part of one that settles as any other does**, with as
many moves. -/
theorem completes (hc : c.Orderly h) {n k : Nat} (run : c.Comes n last)
    (settled : last.Settled) (other : c.Comes k d) : ∃ rest, n = k + rest ∧ d.Comes rest last := by
  induction other generalizing h n with
  | refl c => exact ⟨n, (Nat.zero_add n).symm, run⟩
  | @move k c next d m step _ ih =>
    obtain ⟨n, rfl, run'⟩ := hc.completes_move run settled step
    obtain ⟨h', hnext⟩ := hc.move step
    obtain ⟨rest, rfl, hrest⟩ := ih hnext run'
    exact ⟨rest, by omega, hrest⟩

end Orderly

theorem Comes.of_settled {n : Nat} (run : c.Comes n d) (settled : c.Settled) : n = 0 ∧ c = d := by
  cases run with
  | refl => exact ⟨rfl, rfl⟩
  | move step _ =>
    rw [settled] at step
    cases step

/-- There is one settled state that an orderly chain comes to. -/
theorem Orderly.eq_of_settled (hc : c.Orderly h) {n k : Nat} (run : c.Comes n last)
    (settled : last.Settled) (other : c.Comes k d) (settled' : d.Settled) : d = last := by
  obtain ⟨rest, -, hrest⟩ := hc.completes run settled other
  exact (hrest.of_settled settled').2

/-- Settling comes to it from wherever moves have led, and whatever waits. -/
theorem Orderly.settleAfter_eq (hc : c.Orderly h) {n k : Nat} (run : c.Comes n last)
    (settled : last.Settled) (other : c.Comes k d) (waiting : List Move) :
    d.settleAfter waiting = last := by
  obtain ⟨rest, -, hrest⟩ := hc.completes run settled other
  obtain ⟨h', hd⟩ := hc.comes other
  obtain ⟨k', run'⟩ := comes_settleAfter d waiting
  exact hd.eq_of_settled hrest settled run' (settled_settleAfter d waiting)

/-! ### Answers -/

/-- The chain after some requests, and the answers. -/
def ask : List (Action α) → Chain σ α → Chain σ α × List (Answer α)
  | [], c => (c, [])
  | action :: rest, c =>
    let (last, answers) := ask rest (c.act action).1
    (last, (c.act action).2 :: answers)

/-- What a settled chain can answer to some requests at a time, if it settles in
between, whatever the order of its moves. -/
inductive Serves : Chain σ α → List (List (Action α)) → List (List (Answer α)) → Chain σ α → Prop
  | done (c : Chain σ α) : Serves c [] [] c
  | batch {n : Nat} {c d last : Chain σ α} {actions : List (Action α)}
      {batches : List (List (Action α))} {answers : List (List (Answer α))}
      (moves : (ask actions c).1.Comes n d) (settled : d.Settled)
      (rest : Serves d batches answers last) :
      Serves c (actions :: batches) ((ask actions c).2 :: answers) last

/-- What it answers when moves are made in turn. -/
def serveAll : List (List (Action α)) → Chain σ α → Chain σ α × List (List (Answer α))
  | [], c => (c, [])
  | actions :: rest, c =>
    let (last, answers) := serveAll rest (c.serve [] actions).1
    (last, (c.serve [] actions).2 :: answers)

/-- Requests at once are answered one after the other; then the chain settles. -/
theorem serve_eq (c : Chain σ α) (waiting : List Move) (actions : List (Action α)) :
    ∃ waiting', c.serve waiting actions =
      ((ask actions c).1.settleAfter waiting', (ask actions c).2) := by
  have folded (f : Chain σ α × List Move × List (Answer α) → Action α →
        Chain σ α × List Move × List (Answer α))
      (step : ∀ s a, f s a = ((s.1.act a).1, (s.1.act a).1.queueUp s.2.1, (s.1.act a).2 :: s.2.2))
      (before : List (Answer α)) : ∃ waiting', actions.foldl f (c, waiting, before) =
        ((ask actions c).1, waiting', (ask actions c).2.reverse ++ before) := by
    induction actions generalizing c waiting before with
    | nil => exact ⟨waiting, rfl⟩
    | cons action rest ih =>
      obtain ⟨waiting', hrest⟩ := ih (c.act action).1 ((c.act action).1.queueUp waiting)
        ((c.act action).2 :: before)
      refine ⟨waiting', ?_⟩
      rw [List.foldl_cons, step, hrest]
      simp [ask]
  obtain ⟨waiting', hfold⟩ := folded _ (fun _ _ => rfl) []
  refine ⟨waiting', ?_⟩
  unfold serve
  rw [hfold]
  simp

theorem Orderly.ask (hc : c.Orderly h) {actions : List (Action α)} (cancel : .cancel ∉ actions)
    (drop : .drop ∉ actions) : ∃ h', (Chain.ask actions c).1.Orderly h' := by
  induction actions generalizing c h with
  | nil => exact ⟨h, hc⟩
  | cons action rest ih =>
    simp only [List.mem_cons, not_or] at cancel drop
    obtain ⟨h', hnext⟩ := hc.act (Ne.symm cancel.1) (Ne.symm drop.1)
    exact ih hnext cancel.2 drop.2

theorem serves_serveAll (batches : List (List (Action α))) (c : Chain σ α) :
    c.Serves batches (serveAll batches c).2 (serveAll batches c).1 := by
  induction batches generalizing c with
  | nil => exact .done c
  | cons actions rest ih =>
    obtain ⟨waiting, hserve⟩ := c.serve_eq [] actions
    obtain ⟨n, moves⟩ := comes_settleAfter (ask actions c).1 waiting
    unfold serveAll
    rw [hserve]
    exact .batch moves (settled_settleAfter _ waiting) (ih _)

/-- **What an orderly chain answers does not depend on the order of its moves.** -/
theorem Orderly.serves_eq (hc : c.Orderly h) {batches : List (List (Action α))}
    {answers : List (List (Answer α))} (serves : c.Serves batches answers last)
    (cancel : ∀ actions ∈ batches, .cancel ∉ actions)
    (drop : ∀ actions ∈ batches, .drop ∉ actions) :
    serveAll batches c = (last, answers) := by
  induction serves generalizing h with
  | done c => rfl
  | @batch n c d last actions batches answers moves settled rest ih =>
    obtain ⟨h₁, hasked⟩ := hc.ask (cancel _ List.mem_cons_self) (drop _ List.mem_cons_self)
    obtain ⟨h₂, hd⟩ := hasked.comes moves
    obtain ⟨waiting, hserve⟩ := c.serve_eq [] actions
    have hsettled := hasked.settleAfter_eq moves settled (.refl _) waiting
    unfold serveAll
    rw [hserve, hsettled]
    dsimp only
    rw [ih hd (fun a ha => cancel a (List.mem_cons_of_mem _ ha))
      (fun a ha => drop a (List.mem_cons_of_mem _ ha))]

/-! ### Every run of a chain -/

section Runs

variable {slots : Nat} {stages : List (Stage σ α)} {shared : σ} {first : Chain σ α}
  {steps : List (Step α)}

theorem orderly_of_replay (begun : start slots stages shared = .ok first)
    (run : replay steps first = some (c, h)) (single : ∀ stage ∈ stages, stage.workers = 1)
    (apart : stages.Pairwise Stage.Independent) (undisturbed : c.Undisturbed) : c.Orderly h where
  sound := sound_of_replay begun run
  calm := calm_of_replay begun run undisturbed
  undisturbed := undisturbed
  single := by rwa [stages_of_replay begun run]
  independent := by rwa [stages_of_replay begun run]

/-- **Settling is confluent where every stage has one worker.** From any state that is
not cancelled and whose results are received, all runs of moves can be continued to the
same settled state, and have as many moves when they get there; settling in turn gets
there too, from any state on the way and whatever waits. So what the chain answers to
later requests, made in settled states, is the same in whatever order moves are made.
Stages that only make something of their items can always be run in either order
(`Stage.Pure.independent`). -/
theorem settling_confluent (begun : start slots stages shared = .ok first)
    (run : replay steps first = some (c, h)) (single : ∀ stage ∈ stages, stage.workers = 1)
    (apart : stages.Pairwise Stage.Independent) (going : c.cancelled = false)
    (receiver : ∀ outlet, c.channels[c.exit]? = some outlet → outlet.hasReceiver = true) :
    c.settle.Settled ∧
    (∃ n, ∀ (moves : List Move) (d : Chain σ α) (t : History α),
      replay (moves.map .move) c = some (d, t) →
        moves.length ≤ n ∧ (d.Settled ↔ moves.length = n) ∧ (d.Settled → d = c.settle) ∧
        ∀ waiting, d.settleAfter waiting = c.settle) ∧
    ∀ batches answers last, (∀ actions ∈ batches, .cancel ∉ actions ∧ .drop ∉ actions) →
      (c.settle.Serves batches answers last ↔ serveAll batches c.settle = (last, answers)) := by
  have formed := (sound_of_replay begun run).formed
  have undisturbed : c.Undisturbed := by
    refine ⟨going, fun i s spot exits => receiver s.outlet ?_⟩
    rw [formed.exit_eq, ← exits]
    exact (spot?_eq_some.mp spot).2.2.1
  have hc := orderly_of_replay begun run single apart undisturbed
  have settled : c.settle.Settled := settled_settleAfter c []
  obtain ⟨n, settling⟩ := comes_settleAfter c []
  refine ⟨settled, ⟨n, fun moves d t hmoves => ?_⟩,
    fun batches answers last quiet => ⟨fun serves => ?_, fun all => ?_⟩⟩
  · have other := comes_iff.mpr ⟨moves, t, rfl, hmoves⟩
    obtain ⟨rest, hlength, hrest⟩ := hc.completes settling settled other
    refine ⟨by omega, ⟨fun settled' => ?_, fun all => ?_⟩,
      hc.eq_of_settled settling settled other, hc.settleAfter_eq settling settled other⟩
    · have := (hrest.of_settled settled').1
      omega
    · obtain rfl : rest = 0 := by omega
      cases hrest
      exact settled
  · obtain ⟨h', hsettled⟩ := hc.comes settling
    exact hsettled.serves_eq serves (fun a ha => (quiet a ha).1) (fun a ha => (quiet a ha).2)
  · have serves := serves_serveAll batches c.settle
    rwa [all] at serves

/-- An item has come to the second stage, and the first has another one to fail on: either
stage may go first. -/
def forkedSteps : List (Step Nat) :=
  [.ask (.send 8), .ask (.send 3), .move (.poll 0 0), .move (.poll 0 0), .move (.poll 0 0)]

theorem settling_confluent_halving :
    ∃ first c h d t d' t', start 2 [halving "half" 1 1, halving "quarter" 1 1] () = .ok first ∧
      replay forkedSteps first = some (c, h) ∧
      replay [.move (.poll 0 0), .move (.poll 0 0), .move (.poll 1 0), .move (.poll 1 0),
        .move (.poll 1 0)] c = some (d, t) ∧
      replay [.move (.poll 1 0), .move (.poll 1 0), .move (.poll 0 0), .move (.poll 1 0),
        .move (.poll 0 0)] c = some (d', t') ∧
      d.Settled ∧ d = c.settle ∧ d' = c.settle := by
  obtain ⟨-, ⟨n, hruns⟩, -⟩ := settling_confluent
    (rfl : start 2 [halving "half" 1 1, halving "quarter" 1 1] () = .ok _)
    (rfl : replay forkedSteps _ = some (_, _)) (by simp [halving, Stage.make])
    (List.pairwise_pair.mpr ((halving_pure _ _ _).independent (halving_pure _ _ _))) rfl
    (by
      rintro outlet place
      obtain rfl := Option.some.inj place
      rfl)
  have hfirst := hruns [.poll 0 0, .poll 0 0, .poll 1 0, .poll 1 0, .poll 1 0] _ _ rfl
  have hsecond := hruns [.poll 1 0, .poll 1 0, .poll 0 0, .poll 1 0, .poll 0 0] _ _ rfl
  exact ⟨_, _, _, _, _, _, _, rfl, rfl, rfl, rfl, settled_iff.mpr rfl,
    hfirst.2.2.1 (settled_iff.mpr rfl), hsecond.2.2.1 (settled_iff.mpr rfl)⟩

end Runs

end Chain

end DocSieve
