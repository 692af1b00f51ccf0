import DocSieve.Proofs.Chain.Account
import DocSieve.Proofs.Chain.Counts

/-!
# What holds of every stage

In any run of any chain, whatever was asked and in whatever order the moves
were made: each channel hands on what it got, in order, as long as it has a
receiver; a stage keeps its outlet open until its last worker has left and its
inlet until then; no worker leaves while the stage is neither stopped nor has
taken all that will ever come; and the account of what its workers did goes
with what they do now.

Each of these is kept by every step of a stage in its surroundings
(`Scene.Next.sound`), hence by every step of a chain for each of its stages.

Key definition: `Scene.Sound`.
Key theorems: `Scene.Next.sound`, `Chain.sound_of_replay`, `Chain.scene_invariant`,
`Chain.exists_spot_of_replay`.
-/

namespace DocSieve

variable {σ α : Type}

namespace Scene

/-- The account of what the workers did. -/
def account (x : Scene σ α) : Account α := x.log.account x.crew.stage.workers

/-- What holds of a stage at any time. -/
structure Sound (x : Scene σ α) : Prop where
  staffed : x.crew.workers.length = x.crew.stage.workers
  ended : x.crew.summary ≠ none → x.crew.allGone = true
  /-- Every worker can send until it leaves, and the stage itself until it ends. -/
  senders : x.outlet.senders = x.crew.live + if x.crew.summary.isNone then 1 else 0
  receivers : x.inlet.receivers = x.crew.live
  inlet : x.inlet.Carries x.entered (Log.taken x.log)
  outlet : x.outlet.Carries (Log.puts x.log) x.fetched
  /-- Why workers have left. -/
  reason : Worker.gone ∈ x.crew.workers →
    x.stopped = true ∨ x.Dry ∧ x.entered = Log.taken x.log
  balanced : x.crew.Balanced x.log x.stopped x.account
  counted : x.crew.Counted x.log

variable {x x' : Scene σ α}

theorem Next.no_receiver (n : x.Next x') (h : x.outlet.hasReceiver = false) :
    x'.outlet.hasReceiver = false := by
  cases n with
  | drop => exact Channel.no_receiver_dropReceiver h
  | _ => exact h

theorem Next.stopped (n : x.Next x') (h : x.stopped = true) : x'.stopped = true := by
  simp only [Scene.stopped, Bool.or_eq_true, Bool.not_eq_true'] at h ⊢
  rcases h with cancelled | receiver
  · left
    cases n with
    | cancel => rfl
    | _ => exact cancelled
  · exact .inr (n.no_receiver receiver)

namespace Sound

variable {w : Nat} {worker new : Worker α}

theorem going (h : x.Sound) (here : x.crew.workers[w]? = some worker)
    (stays : worker.isGone = false) : x.crew.summary = none := by
  by_contra hne
  have := h.ended hne
  rw [Crew.not_allGone here stays] at this
  cases this

/-- A stage keeps its outlet open until it ends, though its workers leave sooner. -/
theorem sender (h : x.Sound) : x.outlet.hasSender = x.crew.summary.isNone := by
  rw [Channel.hasSender, h.senders]
  cases ended : x.crew.summary with
  | none => simp
  | some summary =>
    have gone := h.ended (by simp [ended])
    simp [Crew.allGone_iff_live.mp gone]

/-- A stage keeps its inlet open until its last worker leaves. -/
theorem receiver (h : x.Sound) : x.inlet.hasReceiver = !x.crew.allGone := by
  cases gone : x.crew.allGone
  · rw [← Bool.not_eq_true, Crew.allGone_iff_live] at gone
    simpa [Channel.hasReceiver, h.receivers] using Nat.pos_of_ne_zero gone
  · simp [Channel.hasReceiver, h.receivers, Crew.allGone_iff_live.mp gone]

theorem ended_of_closed (h : x.Sound) (closed : x.outlet.hasSender = false) :
    x.crew.summary ≠ none := by
  intro hnone
  have hopen := h.sender
  rw [closed, hnone] at hopen
  cases hopen

theorem gone_of_closed (h : x.Sound) (closed : x.outlet.hasSender = false) :
    x.crew.allGone = true := h.ended (h.ended_of_closed closed)

theorem open_inlet (h : x.Sound) (here : x.crew.workers[w]? = some worker)
    (stays : worker.isGone = false) : x.inlet.hasReceiver = true := by
  rw [h.receiver, Crew.not_allGone here stays]
  rfl

/-- A worker that goes on leaves nobody gone who was not gone before. -/
theorem reason_set (h : x.Sound) (stays : new.isGone = false)
    (gone : Worker.gone ∈ x.crew.workers.set w new) :
    x.stopped = true ∨ x.Dry ∧ x.entered = Log.taken x.log := by
  rcases List.mem_or_eq_of_mem_set gone with gone | rfl
  · exact h.reason gone
  · cases stays

theorem senders_set (h : x.Sound) (here : x.crew.workers[w]? = some worker)
    (stays : worker.isGone = false) (stays' : new.isGone = false) : x.outlet.senders =
      (x.crew.setWorker w new).live + if x.crew.summary.isNone then 1 else 0 := by
  rw [Crew.live_setWorker here stays stays']
  exact h.senders

theorem receivers_set (h : x.Sound) (here : x.crew.workers[w]? = some worker)
    (stays : worker.isGone = false) (stays' : new.isGone = false) :
    x.inlet.receivers = (x.crew.setWorker w new).live := by
  rw [Crew.live_setWorker here stays stays']
  exact h.receivers

/-! Its own workers. -/

theorem take (h : x.Sound) {item : α} {rest : List α} (idle : x.crew.workers[w]? = some .idle)
    (running : x.stopped = false) (items : x.inlet.items = item :: rest) :
    Sound { x with
      inlet := { x.inlet with items := rest }
      crew := (x.crew.setWorker w (.busy item)).count w .take
      log := x.log ++ [(w, .took item)] } where
  staffed := by simpa [Crew.setWorker] using h.staffed
  ended hne := absurd (h.going idle rfl) hne
  senders := h.senders_set idle rfl rfl
  receivers := h.receivers_set idle rfl rfl
  inlet := by
    rw [Log.taken_append]
    exact h.inlet.pop items
  outlet := by simpa [Feat.put?] using h.outlet
  reason gone := by
    rcases h.reason_set rfl gone with stop | ⟨⟨dry, -⟩, -⟩
    · rw [running] at stop
      cases stop
    · rw [items] at dry
      cases dry
  balanced := by
    rw [account, Log.account_append]
    exact h.balanced.take idle
  counted := h.counted.step (f := .took item) idle rfl rfl rfl

theorem make (h : x.Sound) {item value : α} (busy : x.crew.workers[w]? = some (.busy item))
    (yields : x.crew.stage.Yields item (some value)) :
    Sound { x with
      crew := x.crew.setWorker w (.holding value)
      log := x.log ++ [(w, .made item value)] } where
  staffed := by simpa [Crew.setWorker] using h.staffed
  ended hne := absurd (h.going busy rfl) hne
  senders := h.senders_set busy rfl rfl
  receivers := h.receivers_set busy rfl rfl
  inlet := by simpa [Feat.took?] using h.inlet
  outlet := by simpa [Feat.put?] using h.outlet
  reason gone := by
    have htaken : Log.taken (x.log ++ [(w, .made item value)]) = Log.taken x.log := by
      simp [Feat.took?]
    rw [htaken]
    exact h.reason_set rfl gone
  balanced := by
    rw [account, Log.account_append]
    exact h.balanced.make busy yields
  counted := by
    rw [← Crew.count_id (x.crew.setWorker w (.holding value)) w]
    exact h.counted.step (f := .made item value) busy rfl rfl rfl

theorem fail (h : x.Sound) {item : α} (busy : x.crew.workers[w]? = some (.busy item))
    (yields : x.crew.stage.Yields item none) :
    Sound { x with
      crew := (x.crew.setWorker w .idle).count w .fail
      log := x.log ++ [(w, .failed item)] } where
  staffed := by simpa [Crew.setWorker] using h.staffed
  ended hne := absurd (h.going busy rfl) hne
  senders := h.senders_set busy rfl rfl
  receivers := h.receivers_set busy rfl rfl
  inlet := by simpa [Feat.took?] using h.inlet
  outlet := by simpa [Feat.put?] using h.outlet
  reason gone := by
    have htaken : Log.taken (x.log ++ [(w, .failed item)]) = Log.taken x.log := by
      simp [Feat.took?]
    rw [htaken]
    exact h.reason_set rfl gone
  balanced := by
    rw [account, Log.account_append]
    exact h.balanced.fail busy yields
  counted := h.counted.step (f := .failed item) busy rfl rfl rfl

theorem put (h : x.Sound) {value : α} (holding : x.crew.workers[w]? = some (.holding value))
    (running : x.stopped = false) :
    Sound { x with
      outlet := x.outlet.push value
      crew := (x.crew.setWorker w .idle).count w .deliver
      log := x.log ++ [(w, .put value)] } where
  staffed := by simpa [Crew.setWorker] using h.staffed
  ended hne := absurd (h.going holding rfl) hne
  senders := h.senders_set holding rfl rfl
  receivers := h.receivers_set holding rfl rfl
  inlet := by simpa [Feat.took?] using h.inlet
  outlet := by
    rw [Log.puts_append]
    refine h.outlet.push ?_ value
    simp only [Scene.stopped, Bool.or_eq_false_iff, Bool.not_eq_false'] at running
    exact running.2
  reason gone := by
    have htaken : Log.taken (x.log ++ [(w, .put value)]) = Log.taken x.log := by
      simp [Feat.took?]
    rw [htaken]
    exact h.reason_set rfl gone
  balanced := by
    rw [account, Log.account_append]
    exact h.balanced.put holding
  counted := h.counted.step (f := .put value) holding rfl rfl rfl

theorem leave (h : x.Sound) (here : x.crew.workers[w]? = some worker)
    (reason : worker = .idle ∧ (x.stopped = true ∨ x.Dry) ∨
      (∃ value, worker = .holding value) ∧ x.stopped = true) :
    Sound { x with
      inlet := x.inlet.dropReceiver
      crew := x.crew.leave w
      outlet := x.outlet.dropSender
      log := x.log ++ [(w, .left)] } := by
  have stays : worker.isGone = false := by
    rcases reason with ⟨rfl, -⟩ | ⟨⟨value, rfl⟩, -⟩ <;> rfl
  have htaken : Log.taken (x.log ++ [(w, .left)]) = Log.taken x.log := by simp [Feat.took?]
  have hputs : Log.puts (x.log ++ [(w, .left)]) = Log.puts x.log := by simp [Feat.put?]
  have going := h.going here stays
  refine ⟨?_, fun hne => absurd going hne, ?_, ?_, ?_, ?_, fun _ => ?_, ?_,
    h.counted.leave here stays⟩
  · simpa using! h.staffed
  · have senders := h.senders
    have pos := Crew.live_pos here stays
    simp only [going, Option.isNone_none, ↓reduceIte] at senders
    simp only [Channel.dropSender, Crew.live_leave here stays, show (x.crew.leave w).summary =
      x.crew.summary from rfl, going, Option.isNone_none, ↓reduceIte]
    omega
  · simp [Channel.dropReceiver, Crew.live_leave here stays, h.receivers]
  · rw [htaken]
    exact h.inlet.dropReceiver
  · rw [hputs]
    exact h.outlet.dropSender
  · rw [htaken]
    have hdry : x.stopped = true ∨ x.Dry := by
      rcases reason with ⟨-, reason⟩ | ⟨-, stop⟩
      · exact reason
      · exact .inl stop
    rcases hdry with stop | ⟨empty, closed⟩
    · exact .inl stop
    · refine .inr ⟨⟨Channel.items_dropReceiver_of_nil empty, closed⟩, ?_⟩
      -- the inlet was empty before the worker let go of it
      rw [h.inlet.whole (h.open_inlet here stays), empty, List.append_nil]
  · rw [account, Log.account_append]
    refine h.balanced.leave here ?_
    rcases reason with ⟨rfl, -⟩ | reason
    · exact .inl rfl
    · exact .inr reason

theorem finish (h : x.Sound) (gone : x.crew.allGone = true) (going : x.crew.summary = none) :
    Sound { x with
      crew := { x.crew with summary := some (x.crew.summarize x.cancelled) }
      outlet := x.outlet.dropSender } where
  staffed := h.staffed
  ended _ := gone
  senders := by
    simp [Channel.dropSender, h.senders, going, Crew.live]
  receivers := h.receivers
  inlet := h.inlet
  outlet := h.outlet.dropSender
  reason := h.reason
  balanced := { h.balanced with }
  counted := h.counted.finish _

/-! Its surroundings. -/

theorem arrive (h : x.Sound) (item : α) (sender : x.inlet.hasSender = true)
    (receiver : x.inlet.hasReceiver = true) :
    Sound { x with inlet := x.inlet.push item, entered := x.entered ++ [item] } where
  staffed := h.staffed
  ended := h.ended
  senders := h.senders
  receivers := h.receivers
  inlet := h.inlet.push receiver item
  outlet := h.outlet
  reason gone := by
    rcases h.reason gone with stop | ⟨⟨-, closed⟩, -⟩
    · exact .inl stop
    · rw [sender] at closed
      cases closed
  balanced := h.balanced
  counted := h.counted

theorem close (h : x.Sound) : Sound { x with inlet := x.inlet.dropSender } where
  staffed := h.staffed
  ended := h.ended
  senders := h.senders
  receivers := h.receivers
  inlet := h.inlet.dropSender
  outlet := h.outlet
  reason gone := (h.reason gone).imp id fun ⟨dry, all⟩ =>
    ⟨⟨dry.1, Channel.no_sender_dropSender dry.2⟩, all⟩
  balanced := h.balanced
  counted := h.counted

theorem fetch (h : x.Sound) {value : α} {rest : List α} (items : x.outlet.items = value :: rest) :
    Sound { x with
      outlet := { x.outlet with items := rest }
      fetched := x.fetched ++ [value] } where
  staffed := h.staffed
  ended := h.ended
  senders := h.senders
  receivers := h.receivers
  inlet := h.inlet
  outlet := h.outlet.pop items
  reason := h.reason
  balanced := h.balanced
  counted := h.counted

theorem drop (h : x.Sound) : Sound { x with outlet := x.outlet.dropReceiver } where
  staffed := h.staffed
  ended := h.ended
  senders := h.senders
  receivers := h.receivers
  inlet := h.inlet
  outlet := h.outlet.dropReceiver
  reason gone := (h.reason gone).imp Next.drop.stopped id
  balanced := h.balanced.stop Next.drop.stopped
  counted := h.counted

theorem cancel (h : x.Sound) : Sound { x with cancelled := true } where
  staffed := h.staffed
  ended := h.ended
  senders := h.senders
  receivers := h.receivers
  inlet := h.inlet
  outlet := h.outlet
  reason _ := .inl rfl
  balanced := h.balanced.stop fun _ => rfl
  counted := h.counted

end Sound

/-- **Whatever a stage lives through, it stays sound.** -/
theorem Next.sound (h : x.Sound) (n : x.Next x') : x'.Sound := by
  cases n with
  | take idle going items => exact h.take idle going items
  | make busy yields => exact h.make busy yields
  | fail busy yields => exact h.fail busy yields
  | put holding going room => exact h.put holding going
  | leave here reason => exact h.leave here reason
  | finish gone going => exact h.finish gone going
  | arrive item sender receiver room => exact h.arrive item sender receiver
  | close => exact h.close
  | fetch items => exact h.fetch items
  | drop => exact h.drop
  | cancel => exact h.cancel
  | rest => exact h

end Scene

/-! ### Chains -/

theorem Crew.balanced_start (stage : Stage σ α) (stopped : Bool) :
    (Crew.start stage).Balanced [] stopped (.start stage.workers) where
  hands := by simp [Account.start, Crew.start]
  grips w worker here := by
    simp only [Crew.start, List.getElem?_replicate, Option.ite_none_right_eq_some,
      Option.some.injEq] at here
    obtain ⟨hw, rfl⟩ := here
    simp [Worker.Grips, Account.hand, Account.start, hw]
  taken := rfl
  balance := by
    simp [Account.inHand, Account.start, Log.taken, List.filterMap_replicate_of_none]
  ran := by
    simp [Crew.running, Crew.start, Log.taken, Log.ran, List.filterMap_replicate_of_none,
      Worker.running?]
  puts := rfl
  failures := rfl
  delivered d hd := by simp [Account.start] at hd
  failed p hp := by simp [Account.start] at hp
  abandoned q hq := by simp [Account.start] at hq
  gone q hq := by simp [Account.start] at hq
  once := List.nodup_nil
  stopped hne := absurd rfl hne

theorem Scene.sound_start (before senders receivers : Nat) (stage : Stage σ α)
    (cancelled : Bool) :
    Scene.Sound ⟨.new before senders stage.workers, .start stage,
      .new stage.slots (stage.workers + 1) receivers, cancelled, [], [], []⟩ where
  staffed := by simp [Crew.start]
  ended hne := absurd rfl hne
  senders := by
    rw [Crew.live_start]
    rfl
  receivers := (Crew.live_start stage).symm
  inlet := Channel.carries_new _ _ _
  outlet := Channel.carries_new _ _ _
  reason gone := by simp [Crew.start] at gone
  balanced := Crew.balanced_start stage _
  counted := Crew.counted_start stage

namespace Chain

/-- What holds of a chain after a history. -/
structure Sound (c : Chain σ α) (h : History α) : Prop where
  formed : c.Formed
  stage : ∀ {i s}, c.spot? i = some s → (c.scene h i s).Sound

variable {c next : Chain σ α} {h : History α}

theorem Sound.guarded (hc : c.Sound h) : c.Guarded := by
  intro i s hs closed
  exact (hc.stage hs).gone_of_closed closed

theorem Advance.formed {o : Occurrence α} (step : c.Advance o next) (hf : c.Formed) :
    next.Formed := by
  unfold Formed at *
  cases step <;> simpa [setChannel, putSpot] using hf

theorem Sound.advance {o : Occurrence α} (hc : c.Sound h) (step : c.Advance o next) :
    next.Sound (h ++ [o]) := by
  refine ⟨step.formed hc.formed, fun hs' => ?_⟩
  obtain ⟨s, hs, hnext⟩ := next_of_advance hc.formed hc.guarded step hs'
  exact hnext.sound (hc.stage hs)

/-- What a sound stage keeps in each of its steps, it keeps in every run. -/
theorem scene_invariant {P : Scene σ α → Prop} {i : Nat} {steps : List (Step α)}
    {last : Chain σ α} {t : History α}
    (keep : ∀ x x' : Scene σ α, x.Sound → P x → x.Next x' → P x') (hc : c.Sound h)
    (begins : ∀ s, c.spot? i = some s → P (c.scene h i s))
    (run : replay steps c = some (last, t)) {s : Spot σ α} (hs : last.spot? i = some s) :
    P (last.scene (h ++ t) i s) := by
  have hlast := replay_invariant
    (P := fun h c => c.Sound h ∧ ∀ s, c.spot? i = some s → P (c.scene h i s)) ?_
    ⟨hc, begins⟩ run
  · exact hlast.2 s hs
  · rintro h c step next o ⟨hc, hP⟩ hstep
    have hadvance := advance_of_advance? hstep
    refine ⟨hc.advance hadvance, fun s' hs' => ?_⟩
    obtain ⟨s, hs, hnext⟩ := next_of_advance hc.formed hc.guarded hadvance hs'
    exact keep _ _ (hc.stage hs) (hP s hs) hnext

theorem start_eq {slots : Nat} {stages : List (Stage σ α)} {shared : σ}
    (begun : start slots stages shared = .ok c) :
    c = ⟨wire slots 1 stages, stages.map .start, shared, [], false⟩ := by
  simp only [start] at begun
  split at begun
  · exact (Except.ok.inj begun).symm
  · cases begun

theorem stages_putSpot {i : Nat} {s new : Spot σ α} (hs : c.spot? i = some s)
    (h : new.crew.stage = s.crew.stage) :
    (c.putSpot i new).crews.map (·.stage) = c.crews.map (·.stage) := by
  have hi : (c.crews.map (·.stage))[i]? = some s.crew.stage := by
    simp [(spot?_eq_some.mp hs).2.1]
  simp only [putSpot, List.map_set]
  rw [h, set_eq_of_getElem? hi]

theorem Advance.stages {o : Occurrence α} (step : c.Advance o next) :
    next.crews.map (·.stage) = c.crews.map (·.stage) := by
  cases step with
  | worked spot does => exact stages_putSpot spot (Spot.stage_perform does)
  | ended spot can => exact stages_putSpot spot rfl
  | _ => rfl

theorem length_wire (slots senders : Nat) (stages : List (Stage σ α)) :
    (wire slots senders stages).length = stages.length + 1 := by
  induction stages generalizing slots senders with
  | nil => rfl
  | cons stage rest ih => simp [wire, ih]

theorem head_wire (slots senders : Nat) (stages : List (Stage σ α)) :
    ∃ receivers, 0 < receivers ∧
      (wire slots senders stages)[0]? = some (.new slots senders receivers) := by
  cases stages with
  | nil => exact ⟨1, Nat.one_pos, rfl⟩
  | cons stage rest => exact ⟨stage.workers, stage.workers_pos, rfl⟩

/-- Before a stage is a channel that its workers take from, behind it one that they and
the stage put into. -/
theorem getElem?_wire {i : Nat} {stages : List (Stage σ α)} {stage : Stage σ α}
    (here : stages[i]? = some stage) (slots : Nat) {senders : Nat} (open_ : 0 < senders) :
    ∃ before senders' receivers, 0 < senders' ∧ 0 < receivers ∧
      (wire slots senders stages)[i]? = some (.new before senders' stage.workers) ∧
      (wire slots senders stages)[i + 1]? =
        some (.new stage.slots (stage.workers + 1) receivers) := by
  induction stages generalizing i slots senders with
  | nil => cases here
  | cons first rest ih =>
    cases i with
    | zero =>
      obtain rfl := Option.some.inj here
      obtain ⟨receivers, pos, head⟩ := head_wire first.slots (first.workers + 1) rest
      exact ⟨slots, senders, receivers, open_, pos, rfl, head⟩
    | succ i => exact ih here first.slots (Nat.succ_pos _)

theorem scene_start {slots i : Nat} {stages : List (Stage σ α)} {shared : σ} {s : Spot σ α}
    (begun : start slots stages shared = .ok c) (hs : c.spot? i = some s) :
    ∃ stage before senders receivers, stages[i]? = some stage ∧ 0 < senders ∧ 0 < receivers ∧
      c.scene [] i s = ⟨.new before senders stage.workers, .start stage,
        .new stage.slots (stage.workers + 1) receivers, false, [], [], []⟩ := by
  obtain rfl := start_eq begun
  obtain ⟨hinlet, hcrew, houtlet, -, -⟩ := spot?_eq_some.mp hs
  rw [List.getElem?_map, Option.map_eq_some_iff] at hcrew
  obtain ⟨stage, hstage, hcrew⟩ := hcrew
  obtain ⟨before, senders, receivers, sender, receiver, inlet, outlet⟩ :=
    getElem?_wire hstage slots Nat.one_pos
  obtain hinlet := Option.some.inj (inlet.symm.trans hinlet)
  obtain houtlet := Option.some.inj (outlet.symm.trans houtlet)
  refine ⟨stage, before, senders, receivers, hstage, sender, receiver, ?_⟩
  simp [scene, Spot.scene, ← hinlet, ← hcrew, ← houtlet]

theorem sound_start {slots : Nat} {stages : List (Stage σ α)} {shared : σ}
    (begun : start slots stages shared = .ok c) : c.Sound [] := by
  refine ⟨by simp [Formed, start_eq begun, length_wire], fun hs => ?_⟩
  obtain ⟨stage, before, senders, receivers, -, -, -, hscene⟩ := scene_start begun hs
  rw [hscene]
  exact Scene.sound_start before senders receivers stage false

/-- **Every chain is sound after every run.** -/
theorem sound_of_replay {slots : Nat} {stages : List (Stage σ α)} {shared : σ} {first : Chain σ α}
    {steps : List (Step α)} (begun : start slots stages shared = .ok first)
    (run : replay steps first = some (c, h)) : c.Sound h := by
  have := replay_invariant (P := fun h c => c.Sound h)
    (fun _ _ _ _ _ hc hstep => hc.advance (advance_of_advance? hstep)) (sound_start begun) run
  simpa using this

theorem stages_of_replay {slots : Nat} {stages : List (Stage σ α)} {shared : σ} {first : Chain σ α}
    {steps : List (Step α)} (begun : start slots stages shared = .ok first)
    (run : replay steps first = some (c, h)) : c.crews.map (·.stage) = stages := by
  have hfirst : first.crews.map (·.stage) = stages := by
    rw [start_eq begun]
    simp [Crew.start, Function.comp_def]
  refine replay_invariant (P := fun _ c => c.crews.map (·.stage) = stages) (h := []) ?_ hfirst run
  intro _ _ _ _ _ hc hstep
  rw [(advance_of_advance? hstep).stages, hc]

theorem exists_spot_of_replay {slots i : Nat} {stages : List (Stage σ α)} {stage : Stage σ α}
    {shared : σ} {first : Chain σ α} {steps : List (Step α)}
    (begun : start slots stages shared = .ok first) (run : replay steps first = some (c, h))
    (here : stages[i]? = some stage) : ∃ s, c.spot? i = some s ∧ s.crew.stage = stage := by
  rw [← stages_of_replay begun run, List.getElem?_map, Option.map_eq_some_iff] at here
  obtain ⟨crew, hcrew, rfl⟩ := here
  obtain ⟨s, hs, rfl⟩ := (sound_of_replay begun run).formed.exists_spot hcrew
  exact ⟨s, hs, rfl⟩

theorem length_of_replay {slots : Nat} {stages : List (Stage σ α)} {shared : σ}
    {first : Chain σ α} {steps : List (Step α)} (begun : start slots stages shared = .ok first)
    (run : replay steps first = some (c, h)) : c.crews.length = stages.length := by
  rw [← stages_of_replay begun run, List.length_map]

theorem exists_exit_of_replay {slots : Nat} {stages : List (Stage σ α)} {shared : σ}
    {first : Chain σ α} {steps : List (Step α)} (begun : start slots stages shared = .ok first)
    (run : replay steps first = some (c, h)) (some_stage : stages ≠ []) :
    ∃ s, c.spot? (stages.length - 1) = some s ∧ c.channels[c.exit]? = some s.outlet ∧
      (c.scene h (stages.length - 1) s).fetched = History.received h := by
  have hpos := List.length_pos_iff.mpr some_stage
  have hlast : stages.length - 1 + 1 = stages.length := by omega
  obtain ⟨s, hs, -⟩ := exists_spot_of_replay begun run
    (List.getElem?_eq_getElem (show stages.length - 1 < stages.length by omega))
  refine ⟨s, hs, ?_, ?_⟩
  · rw [(sound_of_replay begun run).formed.exit_eq, length_of_replay begun run, ← hlast]
    exact (spot?_eq_some.mp hs).2.2.1
  · simp [scene, Spot.scene, History.drawn, length_of_replay begun run, hlast]

end Chain

end DocSieve
