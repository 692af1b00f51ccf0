import DocSieve.Proofs.Chain.Settled
import DocSieve.Proofs.Chain.Tally

/-!
# A cancelled chain stops

Once a chain is cancelled, no worker takes an item and none puts a value out,
whatever waits and wherever there is room, whatever is asked and in whatever
order the moves are made. What still happens is that transforms end which were
running, and that workers and stages leave.

So when a cancelled chain can make no more moves, everybody has left: a worker
that is there could leave or end its transform. Nobody waits for a slot or an
item, so full channels between the stages hold nobody back. What was in the last
channel can still be received, and then the channel is closed, whether the
first channel was closed or not.

Key definitions: `Occurrence.Quiet`, `Spot.Stilled`.
Key theorems: `Chain.quiet_of_replay`, `Chain.cancelled_chain_stops`.
-/

namespace DocSieve

open History

variable {σ α : Type}

/-! ### Nothing is taken and nothing is put out -/

/-- No item is taken and no value is put out. -/
def Occurrence.Quiet : Occurrence α → Prop
  | .worked _ _ f => f.took? = none ∧ f.put? = none
  | _ => True

theorem Occurrence.Quiet.of_feat? {p : Nat → Prop} [DecidablePred p] {o : Occurrence α}
    {entry : Nat × Feat α} (quiet : o.Quiet) (h : o.feat? p = some entry) :
    entry.2.took? = none ∧ entry.2.put? = none := by
  cases o with
  | worked i w f =>
    simp only [feat?, Option.ite_none_right_eq_some, Option.some.injEq] at h
    obtain ⟨-, rfl⟩ := h
    exact quiet
  | asked => cases h
  | ended => cases h

theorem History.nil_of_quiet {t : History α} (quiet : ∀ o ∈ t, o.Quiet) (p : Nat → Prop)
    [DecidablePred p] : Log.taken (t.filterMap (·.feat? p)) = [] ∧
      Log.puts (t.filterMap (·.feat? p)) = [] := by
  simp only [Log.taken, Log.puts, List.filterMap_eq_nil_iff, List.mem_filterMap]
  constructor
  · rintro entry ⟨o, ho, hentry⟩
    exact ((quiet o ho).of_feat? hentry).1
  · rintro entry ⟨o, ho, hentry⟩
    exact ((quiet o ho).of_feat? hentry).2

theorem Log.failed_sublist_ran (log : Log α) : (Log.failed log).Sublist (Log.ran log) := by
  induction log with
  | nil => exact List.Sublist.slnil
  | cons entry rest ih =>
    obtain ⟨w, f⟩ := entry
    cases f with
    | failed item => exact ih.cons_cons item
    | made item value => exact ih.cons item
    | _ => exact ih

namespace Chain

variable {c next last : Chain σ α} {h t : History α}

theorem Advance.quiet {o : Occurrence α} (cancelled : c.cancelled = true)
    (step : c.Advance o next) : next.cancelled = true ∧ o.Quiet := by
  cases step with
  | @worked i w s deed spot does =>
    refine ⟨cancelled, ?_⟩
    have stop : s.stopped c.cancelled = true := by simp [Spot.stopped, cancelled]
    cases does with
    | take _ going =>
      rw [stop] at going
      cases going
    | put _ going =>
      rw [stop] at going
      cases going
    | @transform item _ =>
      rcases s.transform_cases w item with ⟨value, -, h, -⟩ | ⟨-, h, -⟩ <;>
      · rw [h]
        exact ⟨rfl, rfl⟩
    | leave => exact ⟨rfl, rfl⟩
  | cancelled => exact ⟨rfl, trivial⟩
  | _ => exact ⟨cancelled, trivial⟩

/-- **A cancelled chain is quiet.** -/
theorem quiet_of_replay {more : List (Step α)} (cancelled : c.cancelled = true)
    (later : replay more c = some (last, t)) : last.cancelled = true ∧ ∀ o ∈ t, o.Quiet := by
  refine replay_invariant (P := fun t c => c.cancelled = true ∧ ∀ o ∈ t, o.Quiet) (h := []) ?_
    ⟨cancelled, by simp⟩ later
  rintro t c step next o ⟨hc, ht⟩ hstep
  obtain ⟨hnext, ho⟩ := (advance_of_advance? hstep).quiet hc
  refine ⟨hnext, fun o' ho' => ?_⟩
  rcases List.mem_append.mp ho' with ho' | ho'
  · exact ht o' ho'
  · rwa [List.mem_singleton.mp ho']

end Chain

/-- What a stage does once it is cancelled: the transforms that were running may
end, and nothing else is counted. -/
structure Spot.Stilled (before after : Spot σ α) (log : Log α) : Prop where
  taken : Log.taken log = []
  puts : Log.puts log = []
  received : after.crew.received = before.crew.received
  delivered : after.crew.delivered = before.crew.delivered
  failed : after.crew.failed = before.crew.failed + (Log.failed log).length
  /-- A transform that failed ran to its end. -/
  failures : (Log.failed log).Sublist (Log.ran log)
  /-- A transform that ran to its end or still runs was running before. -/
  ran : (Log.ran log ++ after.crew.running).Perm before.crew.running

/-- The log of a quiet time, between two times at which all was counted, is that of a
stage which is stilled. -/
theorem Spot.stilled {before after : Spot σ α} {log more : Log α}
    (hbefore : before.crew.Counted log) (hafter : after.crew.Counted (log ++ more))
    (ran : (Log.taken log : Multiset α) = Log.ran log + before.crew.running)
    (ran' : (Log.taken (log ++ more) : Multiset α) = Log.ran (log ++ more) + after.crew.running)
    (taken : Log.taken more = []) (puts : Log.puts more = []) : before.Stilled after more where
  taken := taken
  puts := puts
  received := by
    rw [hafter.received, hbefore.received, Log.taken_append, taken, List.append_nil]
  delivered := by
    rw [hafter.delivered, hbefore.delivered, Log.puts_append, puts, List.append_nil]
  failed := by
    rw [hafter.failed, hbefore.failed, Log.failed_append, List.length_append]
  failures := Log.failed_sublist_ran more
  ran := by
    rw [Log.taken_append, taken, List.append_nil, ran, Log.ran_append, ← Multiset.coe_add,
      add_assoc] at ran'
    rw [← Multiset.coe_eq_coe, ← Multiset.coe_add]
    exact (add_left_cancel ran').symm

namespace Chain

variable {c last : Chain σ α} {h t : History α}

/-! ### The last channel -/

/-- What is in the last channel when nobody sends any more is received in order,
and then the channel is closed. -/
theorem replay_receive {outlet : Channel α} (place : c.channels[c.exit]? = some outlet)
    (receiver : outlet.hasReceiver = true) (sender : outlet.hasSender = false) :
    ∃ emptied, replay (List.replicate (outlet.items.length + 1) (.ask .receive)) c =
      some (emptied, outlet.items.map (fun v => .asked .receive (.value v)) ++
        [.asked .receive .closed]) := by
  induction items : outlet.items generalizing c outlet with
  | nil =>
    refine ⟨(c.act .receive).1, ?_⟩
    simp [replay, advance?, act, onChannel, place, Channel.receive, receiver, sender, items]
  | cons value rest ih =>
    have hreceive : c.act .receive =
        (c.setChannel c.exit { outlet with items := rest }, .value value) := by
      simp [act, onChannel, place, Channel.receive, receiver, items, setChannel]
    have hexit : (c.setChannel c.exit { outlet with items := rest }).exit = c.exit := by
      simp [exit, setChannel]
    obtain ⟨hlt, -⟩ := List.getElem?_eq_some_iff.mp place
    have place' : (c.setChannel c.exit { outlet with items := rest }).channels[
        (c.setChannel c.exit { outlet with items := rest }).exit]? =
          some { outlet with items := rest } := by
      rw [hexit]
      simp [setChannel, hlt]
    obtain ⟨emptied, hrest⟩ := ih place' receiver sender rfl
    refine ⟨emptied, ?_⟩
    rw [List.length_cons, List.replicate_succ, replay]
    simp [advance?, hreceive, hrest]

/-! ### The whole chain -/

section Run

variable {slots i : Nat} {stages : List (Stage σ α)} {stage : Stage σ α} {shared : σ}
  {first : Chain σ α} {steps more : List (Step α)}

theorem log_quiet (cancelled : c.cancelled = true) (later : replay more c = some (last, t)) :
    Log.taken (log i t) = [] ∧ Log.puts (log i t) = [] :=
  nil_of_quiet (quiet_of_replay cancelled later).2 (· = i)

theorem stilled_of_replay (begun : start slots stages shared = .ok first)
    (run : replay steps first = some (c, h)) (cancelled : c.cancelled = true)
    (later : replay more c = some (last, t)) (here : stages[i]? = some stage) :
    ∃ s s', c.spot? i = some s ∧ last.spot? i = some s' ∧ s.Stilled s' (log i t) := by
  have both := replay_append run later
  obtain ⟨s, hs, -⟩ := exists_spot_of_replay begun run here
  obtain ⟨s', hs', -⟩ := exists_spot_of_replay begun both here
  have hbefore := (sound_of_replay begun run).stage hs
  have hafter := (sound_of_replay begun both).stage hs'
  have counted := hafter.counted
  have ran := hafter.balanced.ran
  simp only [scene, Spot.scene, log_append] at counted ran
  obtain ⟨htaken, hputs⟩ := log_quiet (i := i) cancelled later
  exact ⟨s, s', hs, hs',
    Spot.stilled hbefore.counted counted hbefore.balanced.ran ran htaken hputs⟩

/-- What the board says of items taken and values put out stays; of failures it
says what failed since. -/
theorem board_of_cancelled (begun : start slots stages shared = .ok first)
    (run : replay steps first = some (c, h)) (cancelled : c.cancelled = true)
    (later : replay more c = some (last, t)) (name : String) :
    (last.board.stats name).processed = (c.board.stats name).processed ∧
      (last.board.stats name).delivered = (c.board.stats name).delivered ∧
      (last.board.stats name).errors = (c.board.stats name).errors +
        (Log.failed (named (stages.map (·.name)) name t)).length := by
  have both := replay_append run later
  have hbefore := (board_of_replay begun run).tells name
  have hafter := (board_of_replay begun both).tells name
  rw [names_of_replay begun run] at hbefore
  rw [names_of_replay begun both, named_append] at hafter
  obtain ⟨htaken, hputs⟩ := nil_of_quiet (quiet_of_replay cancelled later).2
    fun i => (stages.map (·.name))[i]? = some name
  refine ⟨?_, ?_, ?_⟩
  · rw [hafter.processed, hbefore.processed, Log.taken_append, named, named, htaken,
      List.append_nil]
  · rw [hafter.delivered, hbefore.delivered, Log.puts_append, named, named, hputs, List.append_nil]
  · rw [hafter.errors, hbefore.errors, Log.failed_append, List.length_append]

/-- What was in the last channel at the cancel is received after it, or is
still there. -/
theorem exit_of_cancelled (begun : start slots stages shared = .ok first)
    (run : replay steps first = some (c, h)) (cancelled : c.cancelled = true)
    (later : replay more c = some (last, t)) (some_stage : stages ≠ []) {outlet' : Channel α}
    (place : last.channels[last.exit]? = some outlet') (receiver : outlet'.hasReceiver = true) :
    ∃ outlet, c.channels[c.exit]? = some outlet ∧ outlet.items = received t ++ outlet'.items := by
  have both := replay_append run later
  have hsound := sound_of_replay begun run
  obtain ⟨s, hs, hplace, hfetched⟩ := exists_exit_of_replay begun run some_stage
  obtain ⟨s', hs', hplace', hfetched'⟩ := exists_exit_of_replay begun both some_stage
  obtain rfl := Option.some.inj (hplace'.symm.trans place)
  have hreceiver : s.outlet.hasReceiver = true := by
    by_contra hno
    have hnever := scene_invariant (P := fun x => x.outlet.hasReceiver = false)
      (fun x x' _ hP n => n.no_receiver hP) hsound
      (fun s₁ hs₁ => by
        obtain rfl := Option.some.inj (hs.symm.trans hs₁)
        exact (Bool.not_eq_true _).mp hno) later hs'
    rw [show s'.outlet.hasReceiver = false from hnever] at receiver
    cases receiver
  have hbefore := (hsound.stage hs).outlet.whole hreceiver
  have hafter := ((sound_of_replay begun both).stage hs').outlet.whole receiver
  rw [hfetched] at hbefore
  rw [hfetched', received_append] at hafter
  simp only [scene, Spot.scene, log_append, Log.puts_append, (log_quiet cancelled later).2,
    List.append_nil] at hbefore hafter
  refine ⟨s.outlet, hplace, ?_⟩
  rw [hbefore, List.append_assoc] at hafter
  exact List.append_cancel_left hafter

/-- **A cancelled chain stops.** Whatever is asked after the cancel and in
whatever order the moves are made, no stage takes an item or puts a value out,
so only failures of transforms that were running are still counted. Once no move
can be made, every worker and every stage has ended, no stage has abandoned more
items than it has workers, and the values that were in the last channel at the
cancel were received or are received now, before the channel closes. -/
theorem cancelled_chain_stops (begun : start slots stages shared = .ok first)
    (run : replay steps first = some (c, h)) (cancelled : c.cancelled = true)
    (later : replay more c = some (last, t)) :
    (∀ i stage, stages[i]? = some stage → ∃ s s', c.spot? i = some s ∧ last.spot? i = some s' ∧
      s.Stilled s' (log i t)) ∧
    (∀ name, (last.board.stats name).processed = (c.board.stats name).processed ∧
      (last.board.stats name).delivered = (c.board.stats name).delivered ∧
      (last.board.stats name).errors = (c.board.stats name).errors +
        (Log.failed (named (stages.map (·.name)) name t)).length) ∧
    (last.Settled →
      (∀ i stage, stages[i]? = some stage → ∃ s', last.spot? i = some s' ∧
        s'.crew.allGone = true ∧ s'.crew.summary.isSome = true ∧
        (last.scene (h ++ t) i s').account.abandoned.length ≤ stage.workers) ∧
      (stages ≠ [] → ∀ outlet', last.channels[last.exit]? = some outlet' →
        outlet'.hasReceiver = true → ∃ outlet emptied, c.channels[c.exit]? = some outlet ∧
          outlet.items = received t ++ outlet'.items ∧
          replay (List.replicate (outlet'.items.length + 1) (.ask .receive)) last =
            some (emptied, outlet'.items.map (fun v => .asked .receive (.value v)) ++
              [.asked .receive .closed]))) := by
  have both := replay_append run later
  have hsound := sound_of_replay begun both
  have hcancelled := (quiet_of_replay cancelled later).1
  have hover : last.Settled → ∀ i s', last.spot? i = some s' →
      s'.crew.allGone = true ∧ s'.crew.summary.isSome = true := by
    intro settled i s' hs'
    exact settled.over hs' (by simp [Spot.stopped, hcancelled])
  refine ⟨fun i stage here => stilled_of_replay begun run cancelled later here,
    board_of_cancelled begun run cancelled later, fun settled => ⟨fun i stage here => ?_,
      fun some_stage outlet' place receiver => ?_⟩⟩
  · obtain ⟨s', hs', rfl⟩ := exists_spot_of_replay begun both here
    obtain ⟨gone, ended⟩ := hover settled i s' hs'
    refine ⟨s', hs', gone, ended, ?_⟩
    have hscene := hsound.stage hs'
    have hle := hscene.balanced.abandoned_length_le
    rwa [hscene.staffed] at hle
  · obtain ⟨outlet, hplace, hitems⟩ :=
      exit_of_cancelled begun run cancelled later some_stage place receiver
    obtain ⟨s', hs', hplace', -⟩ := exists_exit_of_replay begun both some_stage
    obtain rfl := Option.some.inj (hplace'.symm.trans place)
    have hsender : s'.outlet.hasSender = s'.crew.summary.isNone := (hsound.stage hs').sender
    rw [← Option.not_isSome, (hover settled _ s' hs').2] at hsender
    obtain ⟨emptied, hreceive⟩ := replay_receive place receiver hsender
    exact ⟨outlet, emptied, hplace, hitems, hreceive⟩

end Run

/-- The half of 2 is in the outlet when the chain is cancelled, a worker waits
with the half of 4, another works on 3, and 6 waits. -/
def cancellingSteps : List (Step Nat) :=
  [.ask (.send 2), .move (.poll 0 0), .move (.poll 0 0), .move (.poll 0 0), .ask (.send 4),
    .move (.poll 0 0), .move (.poll 0 0), .ask (.send 3), .move (.poll 0 1), .ask (.send 6),
    .ask .cancel]

/-- The worker on 3 fails, both leave, and the stage ends. -/
def leavingSteps : List (Step Nat) :=
  [.move (.poll 0 1), .move (.poll 0 0), .move (.poll 0 1), .move (.finish 0)]

theorem cancelled_chain_stops_halving :
    ∃ first c last h t, start 2 [halving "halve" 2 1] () = .ok first ∧
      replay cancellingSteps first = some (c, h) ∧ c.cancelled = true ∧
      replay leavingSteps c = some (last, t) ∧ last.Settled ∧
      (last.board.stats "halve").processed = (c.board.stats "halve").processed ∧
      ∃ emptied, replay [.ask .receive, .ask .receive] last =
        some (emptied, [.asked .receive (.value 1), .asked .receive .closed]) := by
  obtain ⟨-, hboard, hsettled⟩ :=
    cancelled_chain_stops (rfl : start 2 [halving "halve" 2 1] () = .ok _)
      (rfl : replay cancellingSteps _ = some (_, _)) rfl
      (rfl : replay leavingSteps _ = some (_, _))
  obtain ⟨_, emptied, -, -, hreceive⟩ := (hsettled (settled_iff.mpr rfl)).2 (by simp) _ rfl rfl
  exact ⟨_, _, _, _, _, rfl, rfl, rfl, rfl, settled_iff.mpr rfl, (hboard "halve").1, emptied,
    hreceive⟩

end Chain

end DocSieve
