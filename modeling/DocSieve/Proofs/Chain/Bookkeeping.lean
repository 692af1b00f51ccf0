import DocSieve.Proofs.Chain.Delivery
import DocSieve.Proofs.Chain.Settled

/-!
# Two sets of books

What the workers of a stage do is counted twice: on the board, which all stages share,
and by each worker for itself; what the workers hand in when they leave is added up when
the stage ends. Both sets of books agree with each other and with the items, in every state
of every run (`books_agree`): an item that was taken failed, was put out, is being
transformed or held, or was abandoned. Once a stage has ended nothing is counted any more,
and what its summary misses is what was abandoned, an item for each worker at most.

Key definition: `Scene.Summed`.
Key theorems: `Scene.Next.summed`, `Scene.Summed.counts`, `Scene.Sound.taken_of_ended`,
`Chain.books_agree`.
-/

namespace DocSieve

open History

variable {σ α : Type}

/-! ### The workers of a crew -/

theorem Crew.laden_eq (crew : Crew σ α) :
    crew.laden = crew.running.length + crew.held.length := by
  unfold laden running held
  induction crew.workers with
  | nil => rfl
  | cons worker rest ih =>
    rw [List.countP_cons, ih]
    cases worker <;> simp [Worker.isLaden, Worker.running?, Worker.held?] <;> omega

theorem Crew.laden_of_allGone {crew : Crew σ α} (gone : crew.allGone = true) : crew.laden = 0 := by
  refine List.countP_eq_zero.mpr fun worker mem => ?_
  rw [Crew.allGone_iff.mp gone worker mem]
  exact Bool.false_ne_true

/-! ### The summary -/

namespace Scene

variable {x x' : Scene σ α}

/-- The summary, if there is one, is what the crew would still give. -/
def Summed (x : Scene σ α) : Prop :=
  ∀ summary, x.crew.summary = some summary → summary = x.crew.summarize summary.cancelled

/-- A stage that has ended has no worker that could count anything or hand it in. -/
theorem Next.summed (n : x.Next x') (hx : x.Sound) (h : x.Summed) : x'.Summed := by
  have going {w : Nat} {worker : Worker α} (here : x.crew.workers[w]? = some worker)
      (stays : worker.isGone = false) {summary : Summary} :
      x.crew.summary ≠ some summary := by
    rw [hx.going here stays]
    nofun
  cases n with
  | take here | make here | fail here | put here =>
    exact fun summary ended => absurd ended (going here rfl)
  | leave here reason =>
    refine fun summary ended => absurd ended (going here ?_)
    rcases reason with ⟨rfl, -⟩ | ⟨⟨value, rfl⟩, -⟩ <;> rfl
  | finish =>
    intro summary ended
    cases ended
    rfl
  | _ => exact h

/-- The summary adds up what every worker handed in, and each handed in what it counted. -/
theorem Summed.counts (h : x.Summed) (hx : x.Sound) {summary : Summary}
    (ended : x.crew.summary = some summary) :
    x.crew.returned.Perm x.crew.tallies ∧ summary.received = x.crew.received ∧
      summary.failed = x.crew.failed ∧ summary.delivered = x.crew.delivered := by
  have gone := hx.ended (by simp [ended])
  have sums := hx.counted.summarize gone summary.cancelled
  rw [← h summary ended] at sums
  exact ⟨hx.counted.returned_perm gone, congrArg Summary.received sums,
    congrArg Summary.failed sums, congrArg Summary.delivered sums⟩

/-- Once a stage has ended, what it took has failed, was put out or was abandoned, and no
worker abandoned more than one item. -/
theorem Sound.taken_of_ended (hx : x.Sound) (ended : x.crew.summary ≠ none) :
    (Log.taken x.log).length = (Log.failed x.log).length + x.account.abandoned.length +
        (Log.puts x.log).length ∧
      x.account.abandoned.length ≤ x.crew.stage.workers := by
  have taken := hx.balanced.taken_length
  rw [Crew.laden_of_allGone (hx.ended ended), Nat.zero_add] at taken
  refine ⟨taken, ?_⟩
  rw [← hx.staffed]
  exact hx.balanced.abandoned_length_le

end Scene

namespace Chain

variable {c first : Chain σ α} {h : History α} {slots i : Nat} {stages : List (Stage σ α)}
  {stage : Stage σ α} {shared : σ} {steps : List (Step α)} {s : Spot σ α}

theorem summed_of_replay (begun : start slots stages shared = .ok first)
    (run : replay steps first = some (c, h)) (hs : c.spot? i = some s) :
    (c.scene h i s).Summed := by
  refine scene_invariant (h := []) (P := Scene.Summed) (fun x x' hx hP n => n.summed hx hP)
    (sound_start begun) (fun s hs => ?_) run hs
  obtain ⟨stage, before, senders, receivers, -, -, -, hscene⟩ := scene_start begun hs
  rw [hscene]
  exact nofun

theorem Settled.running_eq_nil (settled : c.Settled) (hs : c.spot? i = some s) :
    s.crew.running = [] := by
  refine Crew.running_eq_nil fun item busy => ?_
  obtain ⟨w, here⟩ := List.mem_iff_getElem?.mp busy
  have still := settled.deed?_eq_none hs w
  simp [Spot.deed?, here, Spot.deedOf?] at still

/-- **The two sets of books agree.** At any time the board tells, under the name of a stage
that no other stage has, of the items that the stage took, those that failed and the values
that it put out; every worker has counted what it did itself; and what the workers have
counted sums up to what the board says. In a settled chain what was taken and has neither
failed nor was put out is held or was abandoned. Once the stage has ended, every worker has
handed its counts in, each once; the summary is their sum and says the same as the board;
and the items that it misses are no more than the workers, none if nobody cancelled the
chain or left it. -/
theorem books_agree (begun : start slots stages shared = .ok first)
    (run : replay steps first = some (c, h)) (here : stages[i]? = some stage)
    (alone : ∀ j other, stages[j]? = some other → other.name = stage.name → j = i) :
    ∃ s, c.spot? i = some s ∧
      (c.board.stats stage.name).processed = (Log.taken (log i h)).length ∧
      (c.board.stats stage.name).errors = (Log.failed (log i h)).length ∧
      (c.board.stats stage.name).delivered = (Log.puts (log i h)).length ∧
      s.crew.tallies.length = stage.workers ∧
      (∀ (w : Nat) (tally : WorkerTally), s.crew.tallies[w]? = some tally →
        tally.received = (Log.taken (Log.of w (log i h))).length ∧
        tally.failed = (Log.failed (Log.of w (log i h))).length ∧
        tally.delivered = (Log.puts (Log.of w (log i h))).length) ∧
      (s.crew.tallies.map (·.received)).sum = (c.board.stats stage.name).processed ∧
      (s.crew.tallies.map (·.failed)).sum = (c.board.stats stage.name).errors ∧
      (s.crew.tallies.map (·.delivered)).sum = (c.board.stats stage.name).delivered ∧
      (c.Settled → (c.board.stats stage.name).processed =
        (c.board.stats stage.name).errors + (c.board.stats stage.name).delivered +
          s.crew.held.length + (c.scene h i s).account.abandoned.length) ∧
      ∀ summary, s.crew.summary = some summary →
        s.crew.returned.Perm s.crew.tallies ∧
        summary.received = (s.crew.returned.map (·.received)).sum ∧
        summary.failed = (s.crew.returned.map (·.failed)).sum ∧
        summary.delivered = (s.crew.returned.map (·.delivered)).sum ∧
        summary.received = (c.board.stats stage.name).processed ∧
        summary.failed = (c.board.stats stage.name).errors ∧
        summary.delivered = (c.board.stats stage.name).delivered ∧
        summary.failed + summary.delivered ≤ summary.received ∧
        summary.received - summary.failed - summary.delivered ≤ stage.workers ∧
        (.ask .cancel ∉ steps → .ask .drop ∉ steps →
          summary.received - summary.failed - summary.delivered = 0) := by
  obtain ⟨s, hs, rfl⟩ := exists_spot_of_replay begun run here
  obtain ⟨processed, errors, delivered⟩ := stats_of_replay begun run here alone
  have sound := (sound_of_replay begun run).stage hs
  have staffed : s.crew.workers.length = s.crew.stage.workers := sound.staffed
  have counted : s.crew.Counted (log i h) := sound.counted
  have received := counted.received.trans processed.symm
  have failed := counted.failed.trans errors.symm
  have put := counted.delivered.trans delivered.symm
  refine ⟨s, hs, processed, errors, delivered, counted.staffed.trans staffed,
    fun w tally own => ?_, received, failed, put, fun settled => ?_, fun summary ended => ?_⟩
  · obtain ⟨received, failed, delivered⟩ := counted.own w tally own
    exact ⟨received, failed, delivered⟩
  · have taken : (Log.taken (log i h)).length = s.crew.laden + (Log.failed (log i h)).length +
        (c.scene h i s).account.abandoned.length + (Log.puts (log i h)).length :=
      sound.balanced.taken_length
    have laden := s.crew.laden_eq
    rw [settled.running_eq_nil hs, List.length_nil] at laden
    omega
  · obtain ⟨perm, hreceived, hfailed, hdelivered⟩ := (summed_of_replay begun run hs).counts sound
      ended
    change s.crew.returned.Perm s.crew.tallies at perm
    change summary.received = s.crew.received at hreceived
    change summary.failed = s.crew.failed at hfailed
    change summary.delivered = s.crew.delivered at hdelivered
    obtain ⟨taken, abandoned⟩ : (Log.taken (log i h)).length = (Log.failed (log i h)).length +
          (c.scene h i s).account.abandoned.length + (Log.puts (log i h)).length ∧
        (c.scene h i s).account.abandoned.length ≤ s.crew.stage.workers :=
      sound.taken_of_ended (Option.ne_none_iff_exists'.mpr ⟨summary, ended⟩)
    refine ⟨perm, hreceived.trans (perm.map _).sum_eq.symm,
      hfailed.trans (perm.map _).sum_eq.symm, hdelivered.trans (perm.map _).sum_eq.symm,
      hreceived.trans received, hfailed.trans failed, hdelivered.trans put, by omega, by omega,
      fun cancel drop => ?_⟩
    have kept := (calm_of_replay begun run (undisturbed_of_replay begun run cancel drop) hs).kept
    rw [kept, List.length_nil] at taken
    omega

/-- Of two workers one fails on 3 and the other puts out the half of 4; this one leaves
first. -/
def sharedSteps : List (Step Nat) :=
  [.ask (.send 3), .ask (.send 4), .move (.poll 0 0), .move (.poll 0 1), .move (.poll 0 0),
    .move (.poll 0 1), .move (.poll 0 1), .ask .close, .move (.poll 0 1), .move (.poll 0 0),
    .move (.finish 0)]

theorem books_agree_halving :
    ∃ first c h s summary, start 2 [halving "halve" 2 1] () = .ok first ∧
      replay sharedSteps first = some (c, h) ∧ c.spot? 0 = some s ∧ c.Settled ∧
      s.crew.returned = [⟨1, 0, 1⟩, ⟨1, 1, 0⟩] ∧ s.crew.summary = some summary ∧
      (c.board.stats "halve").processed = 2 ∧
      summary.received = (s.crew.returned.map (·.received)).sum ∧
      summary.received = (c.board.stats "halve").processed ∧
      summary.received - summary.failed - summary.delivered = 0 := by
  obtain ⟨s, hs, -, -, -, -, -, -, -, -, -, hsummary⟩ := books_agree
    (rfl : start 2 [halving "halve" 2 1] () = .ok _) (rfl : replay sharedSteps _ = some (_, _))
    (rfl : [halving "halve" 2 1][0]? = some _) (by
      rintro (_ | j) other hother -
      · rfl
      · cases hother)
  obtain rfl := Option.some.inj hs
  obtain ⟨-, sum, -, -, received, -, -, -, -, whole⟩ := hsummary _ rfl
  exact ⟨_, _, _, _, _, rfl, rfl, rfl, settled_iff.mpr rfl, rfl, rfl, rfl, sum, received,
    whole (by simp [sharedSteps]) (by simp [sharedSteps])⟩

end Chain

end DocSieve
