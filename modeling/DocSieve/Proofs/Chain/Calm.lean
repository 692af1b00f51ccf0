import DocSieve.Proofs.Chain.Closing

/-!
# In an undisturbed chain nobody leaves early

As long as a chain is not cancelled and its results are received, no worker of
any of its stages leaves before every item that the stage will ever get was
taken, and none leaves with an item. A worker could only leave early if the
next stage no longer received; but the workers of the next stage do not leave
before this one has ended.

So once the last channel is seen closed, every stage has ended, from the last
one back to the first, and has dealt with all that came in.

Key definitions: `Scene.Calm`, `Chain.Calm`, `Chain.Undisturbed`.
Key theorems: `Chain.calm_of_replay`, `Chain.gone_of_exit_closed`.
-/

namespace DocSieve

open History

variable {σ α : Type}

namespace Scene

variable {x x' : Scene σ α}

/-- Nobody has left early, and nobody with an item. -/
structure Calm (x : Scene σ α) : Prop where
  left : .gone ∈ x.crew.workers → x.Dry ∧ x.entered = Log.taken x.log
  kept : x.account.abandoned = []

/-- A stage at which nobody is made to leave stays calm. -/
theorem Next.calm (n : x.Next x') (hx : x.Sound)
    (unforced : x.stopped = true → x.crew.allGone = true) (h : x.Calm) : x'.Calm := by
  have hx' := n.sound hx
  have going : ∀ {w : Nat} {worker : Worker α}, x.crew.workers[w]? = some worker →
      worker.isGone = false → x.stopped ≠ true := by
    intro w worker here stays stop
    have gone := unforced stop
    rw [Crew.not_allGone here stays] at gone
    cases gone
  cases n with
  | take here _ _ | make here _ | fail here _ | put here _ _ =>
    refine ⟨fun gone => (hx'.reason gone).resolve_left (going here rfl), ?_⟩
    rw [account, Log.account_append]
    exact h.kept
  | @leave w worker here reason =>
    rcases reason with ⟨rfl, -⟩ | ⟨⟨value, rfl⟩, stop⟩
    · refine ⟨fun gone => (hx'.reason gone).resolve_left (going here rfl), ?_⟩
      have hhand : x.account.hand w = none := hx.balanced.grips w _ here
      have hkept : x.account.abandoned = [] := h.kept
      unfold account at hhand hkept ⊢
      rw [Log.account_append]
      simp [Account.record, hhand, hkept]
    · exact absurd stop (going here rfl)
  | arrive item sender =>
    refine ⟨fun gone => ?_, h.kept⟩
    obtain ⟨⟨-, closed⟩, -⟩ := h.left gone
    rw [sender] at closed
    cases closed
  | close =>
    refine ⟨fun gone => ?_, h.kept⟩
    obtain ⟨⟨empty, closed⟩, all⟩ := h.left gone
    exact ⟨⟨empty, Channel.no_sender_dropSender closed⟩, all⟩
  | _ => exact ⟨h.left, h.kept⟩

/-- At a calm stage nothing that came in was lost: it was taken, or waits. -/
theorem Calm.whole (h : x.Calm) (hx : x.Sound) :
    x.entered = Log.taken x.log ++ x.inlet.items := by
  cases gone : x.crew.allGone
  · exact hx.inlet.whole (by rw [hx.receiver, gone]; rfl)
  · obtain ⟨⟨dry, -⟩, all⟩ := h.left (hx.exists_gone gone)
    rw [dry, List.append_nil]
    exact all

end Scene

namespace Chain

/-- The chain is not cancelled, and its results are received. -/
structure Undisturbed (c : Chain σ α) : Prop where
  going : c.cancelled = false
  receiver : ∀ i s, c.spot? i = some s → i + 1 = c.crews.length → s.outlet.hasReceiver = true

variable {c next : Chain σ α} {h : History α}

/-- Every stage is calm. -/
def Calm (c : Chain σ α) (h : History α) : Prop :=
  ∀ ⦃i s⦄, c.spot? i = some s → (c.scene h i s).Calm

theorem Formed.undisturbed (formed : c.Formed) (going : c.cancelled = false)
    {outlet : Channel α} (place : c.channels[c.exit]? = some outlet)
    (receiver : outlet.hasReceiver = true) : c.Undisturbed := by
  refine ⟨going, fun i s hs hlast => ?_⟩
  have hplace := (spot?_eq_some.mp hs).2.2.1
  rw [hlast, ← formed.exit_eq, place] at hplace
  obtain rfl := Option.some.inj hplace
  exact receiver

theorem Advance.length {o : Occurrence α} (step : c.Advance o next) :
    next.crews.length = c.crews.length := by
  have := congrArg List.length step.stages
  simpa using this

/-- A chain is undisturbed as long as nobody cancels it or leaves. -/
theorem Undisturbed.advance {o : Occurrence α} (undisturbed : c.Undisturbed)
    (step : c.Advance o next) (cancel : ∀ answer, o ≠ .asked .cancel answer)
    (drop : ∀ answer, o ≠ .asked .drop answer) : next.Undisturbed := by
  have kept {i j : Nat} {old new : Channel α} {s' : Spot σ α} (place : c.channels[j]? = some old)
      (hs' : (c.setChannel j new).spot? i = some s') (last : i + 1 = c.crews.length)
      (keeps : new.hasReceiver = old.hasReceiver) : s'.outlet.hasReceiver = true := by
    obtain ⟨s, hs, -, hcase⟩ := spot?_setChannel place hs'
    have receiver := undisturbed.receiver i s hs last
    rcases hcase with ⟨-, -, -, e⟩ | ⟨-, rfl, rfl, -⟩ | ⟨-, -, -, e⟩
    · rwa [e]
    · rwa [keeps]
    · rwa [e]
  have keptAt {i j : Nat} {old new s' : Spot σ α} (spot : c.spot? j = some old)
      (hs' : (c.putSpot j new).spot? i = some s') (last : i + 1 = c.crews.length)
      (keeps : new.outlet.hasReceiver = old.outlet.hasReceiver) :
      s'.outlet.hasReceiver = true := by
    have hj := lt_of_spot? spot
    obtain ⟨s, hs, hcase⟩ := spot?_putSpot spot hs'
    have receiver := undisturbed.receiver i s hs last
    rcases hcase with ⟨-, rfl, -, -, e⟩ | ⟨-, -, -, -, e⟩ | ⟨hi, -⟩ | ⟨-, -, -, -, -, e⟩
    · rwa [e, keeps]
    · rwa [e]
    · omega
    · rwa [e]
  have going := undisturbed.going
  cases step with
  | sent item place => exact ⟨going, fun i s' hs' last => kept place hs' last rfl⟩
  | received place => exact ⟨going, fun i s' hs' last => kept place hs' last rfl⟩
  | closed place => exact ⟨going, fun i s' hs' last => kept place hs' last rfl⟩
  | dropped => exact absurd rfl (drop _)
  | cancelled => exact absurd rfl (cancel _)
  | unchanged => exact undisturbed
  | @worked j w s deed spot does =>
    refine ⟨going, fun i s' hs' last => keptAt spot hs' ?_ ?_⟩
    · simpa [putSpot] using last
    · rcases Spot.outlet_perform does with ⟨value, -, -, -, -, e⟩ | ⟨-, e | e⟩
      · rw [e]
        rfl
      · rw [e]
        rfl
      · rw [e]
  | @ended j s spot can =>
    refine ⟨going, fun i s' hs' last => keptAt spot hs' ?_ rfl⟩
    simpa [putSpot] using last

theorem Undisturbed.before {o : Occurrence α} (hc : c.Sound h) (step : c.Advance o next)
    (calm : next.Undisturbed) : c.Undisturbed := by
  constructor
  · have hnext := calm.going
    cases step with
    | cancelled => cases hnext
    | _ => exact hnext
  · intro i s hs hlast
    obtain ⟨crew, hcrew⟩ : ∃ crew, next.crews[i]? = some crew := by
      refine ⟨_, List.getElem?_eq_getElem ?_⟩
      rw [step.length]
      exact lt_of_spot? hs
    obtain ⟨s', hs', -⟩ := (step.formed hc.formed).exists_spot hcrew
    obtain ⟨s₁, hs₁, n⟩ := next_of_advance (h := h) hc.formed hc.guarded step hs'
    obtain rfl := Option.some.inj (hs.symm.trans hs₁)
    by_contra hno
    have hnever := n.no_receiver ((Bool.not_eq_true _).mp hno)
    have hreceiver := calm.receiver i s' hs' (by rw [step.length, hlast])
    rw [show s'.outlet.hasReceiver = false from hnever] at hreceiver
    cases hreceiver

theorem Formed.spot_succ (formed : c.Formed) {i : Nat} {s : Spot σ α} (hs : c.spot? i = some s)
    (hi : i + 1 < c.crews.length) : ∃ s', c.spot? (i + 1) = some s' ∧ s'.inlet = s.outlet := by
  obtain ⟨s', hs'⟩ := formed.spot_of_lt hi
  have hout := (spot?_eq_some.mp hs).2.2.1
  have hin := (spot?_eq_some.mp hs').1
  exact ⟨s', hs', Option.some.inj (hin.symm.trans hout)⟩

theorem Formed.spot_pred (formed : c.Formed) {i : Nat} {s : Spot σ α}
    (hs : c.spot? (i + 1) = some s) : ∃ s', c.spot? i = some s' ∧ s.inlet = s'.outlet := by
  have hi := lt_of_spot? hs
  obtain ⟨s', hs'⟩ := formed.spot_of_lt (Nat.lt_of_succ_lt hi)
  obtain ⟨next, hnext, same⟩ := formed.spot_succ hs' hi
  obtain rfl := Option.some.inj (hs.symm.trans hnext)
  exact ⟨s', hs', same⟩

/-- When the workers of a stage have left, the stage before it has ended. -/
theorem Sound.gone_before (hc : c.Sound h)
    (calm : c.Calm h) {i : Nat} {s s' : Spot σ α}
    (hs : c.spot? i = some s) (hs' : c.spot? (i + 1) = some s') (same : s'.inlet = s.outlet)
    (gone : s'.crew.allGone = true) : s.crew.allGone = true := by
  obtain ⟨⟨-, closed⟩, -⟩ := (calm hs').left ((hc.stage hs').exists_gone gone)
  have closed : s.outlet.hasSender = false := by
    rw [← same]
    exact closed
  exact (hc.stage hs).gone_of_closed closed

/-- In an undisturbed chain nobody is made to leave. -/
theorem Sound.unforced (hc : c.Sound h) (undisturbed : c.Undisturbed)
    (calm : c.Calm h) {i : Nat} {s : Spot σ α}
    (hs : c.spot? i = some s) (stop : (c.scene h i s).stopped = true) :
    s.crew.allGone = true := by
  have hstop : c.cancelled = true ∨ s.outlet.hasReceiver = false := by
    simpa [Scene.stopped, scene, Spot.scene] using stop
  have hno : s.outlet.hasReceiver = false := by
    rcases hstop with cancelled | hno
    · rw [undisturbed.going] at cancelled
      cases cancelled
    · exact hno
  have hi := lt_of_spot? hs
  by_cases hlast : i + 1 = c.crews.length
  · rw [undisturbed.receiver i s hs hlast] at hno
    cases hno
  · -- nobody receives because the next stage is gone, and that goes last
    obtain ⟨s', hs', same⟩ := hc.formed.spot_succ hs (by omega)
    have hreceiver : s'.inlet.hasReceiver = !s'.crew.allGone := (hc.stage hs').receiver
    rw [same, hno, eq_comm, Bool.not_eq_false'] at hreceiver
    exact hc.gone_before calm hs hs' same hreceiver

/-- **In an undisturbed chain every stage is calm.** -/
theorem calm_of_replay {slots : Nat} {stages : List (Stage σ α)} {shared : σ} {first : Chain σ α}
    {steps : List (Step α)} (begun : start slots stages shared = .ok first)
    (run : replay steps first = some (c, h)) (undisturbed : c.Undisturbed) : c.Calm h := by
  have hcalm := replay_invariant (h := [])
    (P := fun h c => c.Sound h ∧ (c.Undisturbed → c.Calm h)) ?_
    ⟨sound_start begun, fun _ i s hs => ?_⟩ run
  · exact hcalm.2 undisturbed
  · rintro h c step next o ⟨hc, hcalm⟩ hstep
    have hadvance := advance_of_advance? hstep
    refine ⟨hc.advance hadvance, fun undisturbed i s' hs' => ?_⟩
    have hbefore := undisturbed.before hc hadvance
    obtain ⟨s, hs, n⟩ := next_of_advance hc.formed hc.guarded hadvance hs'
    exact n.calm (hc.stage hs) (hc.unforced hbefore (hcalm hbefore) hs) (hcalm hbefore hs)
  · obtain ⟨stage, before, senders, receivers, -, -, -, hscene⟩ := scene_start begun hs
    rw [hscene]
    exact ⟨fun gone => by simp [Crew.start] at gone, rfl⟩

theorem undisturbed_of_replay {slots : Nat} {stages : List (Stage σ α)} {shared : σ}
    {first : Chain σ α} {steps : List (Step α)} (begun : start slots stages shared = .ok first)
    (run : replay steps first = some (c, h)) (cancel : .ask .cancel ∉ steps)
    (drop : .ask .drop ∉ steps) : c.Undisturbed := by
  rw [replay_eq] at run
  refine replayWith_invariant
    (P := fun steps _ c => .ask .cancel ∉ steps → .ask .drop ∉ steps → c.Undisturbed)
    (b := []) (h := []) ?_ (fun _ _ => ⟨?_, fun i s hs _ => ?_⟩) run cancel drop
  · intro before h c step next o undisturbed hstep cancel drop
    simp only [List.mem_append, List.mem_singleton, not_or] at cancel drop
    refine (undisturbed cancel.1 drop.1).advance (advance_of_advance? hstep) ?_ ?_ <;>
      rintro answer rfl
    · exact cancel.2 (eq_ask_of_asked hstep).symm
    · exact drop.2 (eq_ask_of_asked hstep).symm
  · rw [start_eq begun]
  · obtain ⟨stage, before, senders, receivers, -, -, received, hscene⟩ := scene_start begun hs
    exact (congrArg (fun x => x.outlet.hasReceiver) hscene).trans
      (Channel.hasReceiver_eq_true.mpr received)

/-- In an undisturbed chain nothing that was put out is lost: it was drawn from the
outlet, or is there. -/
theorem Sound.puts_whole (hc : c.Sound h) (undisturbed : c.Undisturbed)
    (calm : c.Calm h) {i : Nat} {s : Spot σ α}
    (hs : c.spot? i = some s) :
    Log.puts (log i h) = drawn c.crews.length (i + 1) h ++ s.outlet.items := by
  have hi := lt_of_spot? hs
  by_cases hlast : i + 1 = c.crews.length
  · exact (hc.stage hs).outlet.whole (undisturbed.receiver i s hs hlast)
  · have hnext : i + 1 < c.crews.length := by omega
    obtain ⟨s', hs', same⟩ := hc.formed.spot_succ hs hnext
    have hwhole := (calm hs').whole (hc.stage hs')
    rw [drawn_of_lt hnext, ← same]
    exact hwhole

/-- **When the last channel is seen closed, every stage has ended.** -/
theorem gone_of_exit_closed {slots : Nat} {stages : List (Stage σ α)} {shared : σ}
    {first : Chain σ α} {steps : List (Step α)} (begun : start slots stages shared = .ok first)
    (run : replay steps first = some (c, h)) (undisturbed : c.Undisturbed)
    (closed : ∀ s, c.spot? (stages.length - 1) = some s → s.outlet.hasSender = false) {i : Nat}
    {s : Spot σ α} (hs : c.spot? i = some s) : s.crew.allGone = true := by
  have hc := sound_of_replay begun run
  have calm := calm_of_replay begun run undisturbed
  have hlength := length_of_replay begun run
  -- from the last stage back to the first
  induction hback : stages.length - 1 - i generalizing i s with
  | zero =>
    have hi := lt_of_spot? hs
    obtain rfl : i = stages.length - 1 := by omega
    exact (hc.stage hs).gone_of_closed (closed s hs)
  | succ back ih =>
    obtain ⟨s', hs', same⟩ := hc.formed.spot_succ hs (by omega)
    exact hc.gone_before calm hs hs' same (ih hs' (by omega))

end Chain

end DocSieve
