import DocSieve.Proofs.Chain.Tally

/-!
# The outlet closes last

Who receives from a stage sees the channel closed only when all is done: the
workers have left for good and whatever they put out has been received. Then
nothing more is ever put out, and the channel is seen closed again.

If the chain was not cancelled by then, a close tells more. A worker that was
not stopped left because no item would ever come, so the inlet had been closed
and every item in it was taken; a worker that has left has nothing in its hand;
so each item either failed, and was counted, or its value was received.

Key definitions: `Scene.Shut`, `Scene.Complete`.
Key theorem: `Chain.closed_when_finished`.
-/

namespace DocSieve

open History

variable {σ α : Type}

theorem Crew.running_of_allGone {crew : Crew σ α} (gone : crew.allGone = true) :
    crew.running = [] := by
  refine List.filterMap_eq_nil_iff.mpr fun worker hworker => ?_
  rw [Crew.allGone_iff.mp gone worker hworker]
  rfl

namespace Scene

variable (x : Scene σ α)

/-- The stage is over: nobody works, nothing is in the outlet, and nothing more
can come into it. -/
structure Shut : Prop where
  gone : x.crew.allGone = true
  items : x.outlet.items = []
  sender : x.outlet.hasSender = false

/-- Every item that went in was taken and transformed, and it failed or its
value was received. -/
structure Complete : Prop where
  closed : x.inlet.hasSender = false
  taken : Log.taken x.log = x.entered
  ran : (Log.ran x.log).Perm x.entered
  /-- Each item failed or was delivered. -/
  split : x.entered.zipIdx.Perm (x.account.failed ++ x.account.delivered.map (·.1))
  failed : ∀ p ∈ x.account.failed, x.crew.stage.Yields p.1 none
  delivered : ∀ d ∈ x.account.delivered, x.crew.stage.Yields d.1.1 (some d.2)
  counted : x.crew.failed = x.account.failed.length
  received : x.fetched = x.account.delivered.map (·.2)

variable {x} {x' : Scene σ α}

theorem Shut.no_worker (h : x.Shut) {w : Nat} {worker : Worker α}
    (here : x.crew.workers[w]? = some worker) : worker = .gone :=
  Crew.allGone_iff.mp h.gone worker (List.mem_of_getElem? here)

/-- A stage that is over stays so, and puts nothing out. -/
theorem Next.shut (n : x.Next x') (h : x.Shut) : x'.Shut ∧ Log.puts x'.log = Log.puts x.log := by
  have gone := h.gone
  have items := h.items
  have sender := h.sender
  cases n with
  | take idle => cases h.no_worker idle
  | make busy => cases h.no_worker busy
  | fail busy => cases h.no_worker busy
  | put holding => cases h.no_worker holding
  | leave here reason =>
    rcases reason with ⟨rfl, -⟩ | ⟨⟨value, rfl⟩, -⟩ <;> cases h.no_worker here
  | finish => exact ⟨⟨gone, items, Channel.no_sender_dropSender sender⟩, rfl⟩
  | fetch some =>
    rw [items] at some
    cases some
  | drop => exact ⟨⟨gone, Channel.items_dropReceiver_of_nil items, sender⟩, rfl⟩
  | _ => exact ⟨⟨gone, items, sender⟩, rfl⟩

namespace Sound

/-- A stage whose outlet is seen closed is over. -/
theorem shut (h : x.Sound) (closed : x.outlet.receive.2 = .closed) : x.Shut := by
  obtain ⟨-, items, sender⟩ := Channel.receive_eq_closed.mp closed
  exact ⟨h.gone_of_closed sender, items, sender⟩

theorem puts_eq_fetched (h : x.Sound) (closed : x.outlet.receive.2 = .closed) :
    Log.puts x.log = x.fetched := by
  obtain ⟨receiver, items, -⟩ := Channel.receive_eq_closed.mp closed
  rw [h.outlet.whole receiver, items, List.append_nil]

theorem inHand_eq_nil (h : x.Sound) (gone : x.crew.allGone = true) : x.account.inHand = [] := by
  refine List.filterMap_eq_nil_iff.mpr fun piece hpiece => ?_
  obtain ⟨w, hw⟩ := List.mem_iff_getElem?.mp hpiece
  obtain ⟨hlt, -⟩ := List.getElem?_eq_some_iff.mp hw
  rw [h.balanced.hands] at hlt
  have here : x.crew.workers[w]? = some x.crew.workers[w] := List.getElem?_eq_getElem hlt
  have hgrips := h.balanced.grips w _ here
  rw [Crew.allGone_iff.mp gone _ (List.getElem_mem hlt)] at hgrips
  have hhand : x.account.hand w = none := hgrips
  simpa [Account.hand, hw] using hhand

theorem exists_gone (h : x.Sound) (gone : x.crew.allGone = true) : .gone ∈ x.crew.workers := by
  have hpos : 0 < x.crew.workers.length := by
    rw [h.staffed]
    exact x.crew.stage.workers_pos
  have hmem := List.getElem_mem hpos
  rwa [Crew.allGone_iff.mp gone _ hmem] at hmem

theorem done (h : x.Sound) (gone : x.crew.allGone = true) (going : x.stopped = false) :
    x.Dry ∧ x.entered = Log.taken x.log ∧ x.account.abandoned = [] := by
  rcases h.reason (h.exists_gone gone) with stop | ⟨dry, all⟩
  · rw [going] at stop
    cases stop
  · refine ⟨dry, all, ?_⟩
    by_contra hne
    have stop := h.balanced.stopped hne
    rw [going] at stop
    cases stop

/-- When all that came in was taken, all workers have left and none of them with
an item, each item failed or was delivered. -/
theorem split (h : x.Sound) (gone : x.crew.allGone = true) (all : x.entered = Log.taken x.log)
    (kept : x.account.abandoned = []) :
    x.entered.zipIdx.Perm (x.account.failed ++ x.account.delivered.map (·.1)) := by
  have hbalance := h.balanced.balance
  rw [← all, h.inHand_eq_nil gone, kept] at hbalance
  refine Multiset.coe_eq_coe.mp ?_
  simpa [← Multiset.coe_add] using hbalance

theorem complete (h : x.Sound) (closed : x.outlet.receive.2 = .closed)
    (going : x.cancelled = false) : x.Complete := by
  have gone := (h.shut closed).gone
  have receiver := (Channel.receive_eq_closed.mp closed).1
  have hstop : x.stopped = false := by simp [Scene.stopped, going, receiver]
  obtain ⟨dry, all, habandoned⟩ := h.done gone hstop
  refine ⟨dry.2, all.symm, ?_, h.split gone all habandoned, h.balanced.failed,
    h.balanced.delivered, ?_, ?_⟩
  · have hran := h.balanced.ran
    rw [Crew.running_of_allGone gone, ← all] at hran
    exact (Multiset.coe_eq_coe.mp (by simpa using hran)).symm
  · rw [h.counted.failed, h.balanced.length_failed]
  · rw [← h.puts_eq_fetched closed, h.balanced.puts]

end Sound

end Scene

namespace Chain

/-- **The outlet closes last.** Whenever the outlet of a stage is seen closed,
its workers have all left and whatever they put out was received; in every
continuation nothing is put out, and the outlet is seen closed as long as it is
looked at. If the chain was not cancelled, every item that went in was taken
and transformed, and it was counted as failed or its value was received. -/
theorem closed_when_finished {slots i : Nat} {stages : List (Stage σ α)} {stage : Stage σ α}
    {shared : σ} {first c : Chain σ α} {steps : List (Step α)} {h : History α} {s : Spot σ α}
    (begun : start slots stages shared = .ok first) (run : replay steps first = some (c, h))
    (here : stages[i]? = some stage) (spot : c.spot? i = some s)
    (closed : s.outlet.receive.2 = .closed) :
    (s.crew.allGone = true ∧ Log.puts (log i h) = drawn stages.length (i + 1) h) ∧
    (∀ more last t, replay more c = some (last, t) → ∃ s', last.spot? i = some s' ∧
      Log.puts (log i t) = [] ∧
      (s'.outlet.hasReceiver = true → s'.outlet.receive.2 = .closed)) ∧
    (c.cancelled = false → (c.scene h i s).Complete ∧
      ((∀ j other, stages[j]? = some other → other.name = stage.name → j = i) →
        (c.board.stats stage.name).errors = (c.scene h i s).account.failed.length)) := by
  have hsound := sound_of_replay begun run
  have hscene := hsound.stage spot
  have hstages := stages_of_replay begun run
  have hlength : c.crews.length = stages.length := by rw [← hstages, List.length_map]
  have hshut := hscene.shut closed
  refine ⟨⟨hshut.gone, ?_⟩, fun more last t hmore => ?_, fun going => ?_⟩
  · rw [← hlength]
    exact hscene.puts_eq_fetched closed
  · obtain ⟨s', hs', -⟩ := exists_spot_of_replay begun (replay_append run hmore) here
    obtain ⟨⟨-, items, sender⟩, hputs⟩ := scene_invariant
      (P := fun x => x.Shut ∧ Log.puts x.log = Log.puts (log i h))
      (fun x x' _ hP n => ⟨(n.shut hP.1).1, (n.shut hP.1).2.trans hP.2⟩) hsound
      (fun s₁ hs₁ => by
        obtain rfl := Option.some.inj (spot.symm.trans hs₁)
        exact ⟨hshut, rfl⟩) hmore hs'
    refine ⟨s', hs', ?_, fun receiver => Channel.receive_eq_closed.mpr ⟨receiver, items, sender⟩⟩
    have hsplit : Log.puts (log i (h ++ t)) = Log.puts (log i h) := hputs
    rw [log_append, Log.puts_append] at hsplit
    exact List.append_right_eq_self.mp hsplit
  · refine ⟨hscene.complete closed going, fun alone => ?_⟩
    rw [(stats_of_replay begun run here alone).errors]
    exact hscene.balanced.length_failed

/-- A worker fails on 3, puts out the half of 4, and leaves a closed inlet. -/
def finishingSteps : List (Step Nat) :=
  [.ask (.send 3), .ask (.send 4), .move (.poll 0 0), .move (.poll 0 0), .move (.poll 0 0),
    .move (.poll 0 0), .ask .close, .move (.poll 0 0), .ask .receive, .move (.poll 0 0),
    .move (.finish 0)]

theorem closed_when_finished_halving :
    ∃ first c h s, start 2 [halving "halve" 1 1] () = .ok first ∧
      replay finishingSteps first = some (c, h) ∧ c.spot? 0 = some s ∧
      s.outlet.receive.2 = .closed ∧ (c.scene h 0 s).Complete ∧ received h = [2] := by
  obtain ⟨-, -, hcomplete⟩ :=
    closed_when_finished (rfl : start 2 [halving "halve" 1 1] () = .ok _)
      (rfl : replay finishingSteps _ = some (_, _)) (rfl : _[0]? = some _) rfl rfl
  exact ⟨_, _, _, _, rfl, rfl, rfl, rfl, (hcomplete rfl).1, rfl⟩

end Chain

end DocSieve
