import DocSieve.Proofs.Chain.Advance

/-!
# A stage in its surroundings

A stage knows of the rest of the chain only what happens to its two channels:
something puts items into its inlet and may let go of it, something takes values out
of its outlet and may let go of it, and somebody may cancel. `Scene.Next` is what a
stage can live through in one step, its own doings with all that permits them
and those of its surroundings. Every step of a chain is such a step for each of
its stages (`Chain.next_of_advance`), so what `Scene.Next` preserves holds of
every stage of every chain, wherever it stands.

Key definitions: `Scene`, `Scene.Next`, `Chain.scene`.
Key theorem: `Chain.next_of_advance`.
-/

namespace DocSieve

open History

variable {σ α : Type}

/-- A stage with its channels, and what has passed through them. -/
structure Scene (σ α : Type) where
  inlet : Channel α
  crew : Crew σ α
  outlet : Channel α
  cancelled : Bool
  /-- What went into the inlet. -/
  entered : List α
  /-- What the workers did. -/
  log : Log α
  /-- What was taken out of the outlet. -/
  fetched : List α

namespace Scene

/-- A worker that looks around leaves. -/
def stopped (x : Scene σ α) : Bool := x.cancelled || !x.outlet.hasReceiver

/-- No item will ever come. -/
def Dry (x : Scene σ α) : Prop := x.inlet.items = [] ∧ x.inlet.hasSender = false

/-- What a stage can live through in one step. -/
inductive Next (x : Scene σ α) : Scene σ α → Prop
  | take {w : Nat} {item : α} {rest : List α} (idle : x.crew.workers[w]? = some .idle)
      (going : x.stopped = false) (items : x.inlet.items = item :: rest) :
      Next x { x with
        inlet := { x.inlet with items := rest }
        crew := (x.crew.setWorker w (.busy item)).count w .take
        log := x.log ++ [(w, .took item)] }
  | make {w : Nat} {item value : α} (busy : x.crew.workers[w]? = some (.busy item))
      (yields : x.crew.stage.Yields item (some value)) :
      Next x { x with
        crew := x.crew.setWorker w (.holding value)
        log := x.log ++ [(w, .made item value)] }
  | fail {w : Nat} {item : α} (busy : x.crew.workers[w]? = some (.busy item))
      (yields : x.crew.stage.Yields item none) :
      Next x { x with
        crew := (x.crew.setWorker w .idle).count w .fail
        log := x.log ++ [(w, .failed item)] }
  | put {w : Nat} {value : α} (holding : x.crew.workers[w]? = some (.holding value))
      (going : x.stopped = false) (room : x.outlet.hasRoom = true) :
      Next x { x with
        outlet := x.outlet.push value
        crew := (x.crew.setWorker w .idle).count w .deliver
        log := x.log ++ [(w, .put value)] }
  | leave {w : Nat} {worker : Worker α} (here : x.crew.workers[w]? = some worker)
      (reason : worker = .idle ∧ (x.stopped = true ∨ x.Dry) ∨
        (∃ value, worker = .holding value) ∧ x.stopped = true) :
      Next x { x with
        inlet := x.inlet.dropReceiver
        crew := x.crew.leave w
        outlet := x.outlet.dropSender
        log := x.log ++ [(w, .left)] }
  | finish (gone : x.crew.allGone = true) (going : x.crew.summary = none) :
      Next x { x with
        crew := { x.crew with summary := some (x.crew.summarize x.cancelled) }
        outlet := x.outlet.dropSender }
  /-- An item comes in. -/
  | arrive (item : α) (sender : x.inlet.hasSender = true) (receiver : x.inlet.hasReceiver = true)
      (room : x.inlet.hasRoom = true) :
      Next x { x with inlet := x.inlet.push item, entered := x.entered ++ [item] }
  /-- A handle to send items with is dropped. -/
  | close : Next x { x with inlet := x.inlet.dropSender }
  /-- A value is taken out. -/
  | fetch {value : α} {rest : List α} (items : x.outlet.items = value :: rest) :
      Next x { x with
        outlet := { x.outlet with items := rest }
        fetched := x.fetched ++ [value] }
  /-- A handle to take values with is dropped. -/
  | drop : Next x { x with outlet := x.outlet.dropReceiver }
  | cancel : Next x { x with cancelled := true }
  /-- The step was made elsewhere. -/
  | rest : Next x x

end Scene

/-- A stage at its spot, with what has passed through. -/
def Spot.scene (s : Spot σ α) (cancelled : Bool) (entered : List α) (log : Log α)
    (fetched : List α) : Scene σ α :=
  ⟨s.inlet, s.crew, s.outlet, cancelled, entered, log, fetched⟩

/-- What a worker does, its stage lives through. -/
theorem Spot.next_of_does {s : Spot σ α} {cancelled : Bool} {w : Nat} {deed : Deed α}
    (does : s.Does cancelled w deed) (entered : List α) (log : Log α) (fetched : List α) :
    (s.scene cancelled entered log fetched).Next
      ((s.perform w deed).scene cancelled entered (log ++ [(w, s.feat deed)]) fetched) := by
  set x := s.scene cancelled entered log fetched with hx
  cases does with
  | take idle going items =>
    have := Scene.Next.take (x := x) idle going items
    simpa [hx, scene, perform, take, feat, items] using this
  | @transform item busy =>
    simp only [perform, scene]
    rcases s.transform_cases w item with ⟨value, yields, h1, h2, h3, h4, -⟩ |
      ⟨yields, h1, h2, h3, h4, -⟩
    · rw [h1, h2, h3, h4]
      exact .make (x := x) busy yields
    · rw [h1, h2, h3, h4]
      exact .fail (x := x) busy yields
  | put holding going room => exact .put (x := x) holding going room
  | leave here reason => exact .leave (x := x) here reason

theorem Crew.allGone_iff {crew : Crew σ α} :
    crew.allGone = true ↔ ∀ worker ∈ crew.workers, worker = .gone := by
  simp only [allGone, List.all_eq_true]
  refine forall₂_congr fun worker _ => ?_
  cases worker <;> simp [Worker.isGone]

theorem Crew.not_allGone {crew : Crew σ α} {w : Nat} {worker : Worker α}
    (here : crew.workers[w]? = some worker) (stays : worker.isGone = false) :
    crew.allGone = false := by
  simp only [allGone, List.all_eq_false]
  exact ⟨worker, List.mem_of_getElem? here, by simp [stays]⟩

@[simp] theorem Crew.workers_count (crew : Crew σ α) (w : Nat)
    (change : WorkerTally → WorkerTally) : (crew.count w change).workers = crew.workers := rfl

@[simp] theorem Crew.stage_count (crew : Crew σ α) (w : Nat)
    (change : WorkerTally → WorkerTally) : (crew.count w change).stage = crew.stage := rfl

@[simp] theorem Crew.stage_leave (crew : Crew σ α) (w : Nat) :
    (crew.leave w).stage = crew.stage := rfl

@[simp] theorem Crew.workers_leave (crew : Crew σ α) (w : Nat) :
    (crew.leave w).workers = crew.workers.set w .gone := rfl

/-- The workers that have not left. -/
def Crew.live (crew : Crew σ α) : Nat := crew.workers.countP fun worker => !worker.isGone

theorem Crew.allGone_iff_live {crew : Crew σ α} : crew.allGone = true ↔ crew.live = 0 := by
  simp [allGone, live, List.countP_eq_zero]

theorem Crew.live_start (stage : Stage σ α) : (start stage).live = stage.workers := by
  simp [live, start, List.countP_replicate, Worker.isGone]

theorem Crew.live_pos {crew : Crew σ α} {w : Nat} {worker : Worker α}
    (here : crew.workers[w]? = some worker) (stays : worker.isGone = false) : 0 < crew.live :=
  List.countP_pos_iff.mpr ⟨worker, List.mem_of_getElem? here, by simp [stays]⟩

theorem Crew.live_setWorker {crew : Crew σ α} {w : Nat} {worker new : Worker α}
    (here : crew.workers[w]? = some worker) (stays : worker.isGone = false)
    (stays' : new.isGone = false) : (crew.setWorker w new).live = crew.live := by
  have pos := live_pos here stays
  obtain ⟨hw, rfl⟩ := List.getElem?_eq_some_iff.mp here
  unfold live at *
  simp only [setWorker, List.countP_set hw, stays, stays', Bool.not_false, ↓reduceIte]
  omega

theorem Crew.live_leave {crew : Crew σ α} {w : Nat} {worker : Worker α}
    (here : crew.workers[w]? = some worker) (stays : worker.isGone = false) :
    (crew.leave w).live = crew.live - 1 := by
  obtain ⟨hw, rfl⟩ := List.getElem?_eq_some_iff.mp here
  simp [live, List.countP_set hw, stays, show (Worker.gone : Worker α).isGone = true from rfl]

namespace Chain

variable (c : Chain σ α)

/-- A chain has one channel more than stages. -/
def Formed : Prop := c.channels.length = c.crews.length + 1

/-- A stage that no longer keeps its outlet open has no workers left. -/
def Guarded : Prop :=
  ∀ i s, c.spot? i = some s → s.outlet.hasSender = false → s.crew.allGone = true

/-- A stage of a chain in its surroundings, after some history. -/
def scene (h : History α) (i : Nat) (s : Spot σ α) : Scene σ α :=
  s.scene c.cancelled (entered i h) (log i h) (drawn c.crews.length (i + 1) h)

variable {c}

theorem spot?_eq_some {i : Nat} {s : Spot σ α} : c.spot? i = some s ↔
    c.channels[i]? = some s.inlet ∧ c.crews[i]? = some s.crew ∧
      c.channels[i + 1]? = some s.outlet ∧ c.shared = s.shared ∧ c.board = s.board := by
  obtain ⟨inlet, crew, outlet, shared, board⟩ := s
  simp only [spot?, Option.bind_eq_bind, Option.bind_eq_some_iff, Option.pure_def,
    Option.some.injEq, Spot.mk.injEq]
  constructor
  · rintro ⟨_, h1, _, h2, _, h3, rfl, rfl, rfl, rfl, rfl⟩
    exact ⟨h1, h2, h3, rfl, rfl⟩
  · rintro ⟨h1, h2, h3, rfl, rfl⟩
    exact ⟨_, h1, _, h2, _, h3, rfl, rfl, rfl, rfl, rfl⟩

theorem Formed.exists_spot (hf : c.Formed) {i : Nat} {crew : Crew σ α}
    (hc : c.crews[i]? = some crew) : ∃ s, c.spot? i = some s ∧ s.crew = crew := by
  obtain ⟨hi, -⟩ := List.getElem?_eq_some_iff.mp hc
  unfold Formed at hf
  exact ⟨⟨c.channels[i], crew, c.channels[i + 1], c.shared, c.board⟩,
    spot?_eq_some.mpr ⟨List.getElem?_eq_getElem (by omega), hc, List.getElem?_eq_getElem (by omega),
      rfl, rfl⟩, rfl⟩

theorem Formed.spot_of_lt (hf : c.Formed) {i : Nat} (hi : i < c.crews.length) :
    ∃ s, c.spot? i = some s := by
  obtain ⟨s, hs, -⟩ := hf.exists_spot (List.getElem?_eq_getElem hi)
  exact ⟨s, hs⟩

/-! ### Every step is a step for every stage -/

/-- A stage after another channel has taken the place of one. It is its inlet,
its outlet, or none of its channels. -/
theorem spot?_setChannel {i j : Nat} {old new : Channel α} {s' : Spot σ α}
    (hold : c.channels[j]? = some old) (hs' : (c.setChannel j new).spot? i = some s') :
    ∃ s, c.spot? i = some s ∧ s'.crew = s.crew ∧
      ((i = j ∧ s.inlet = old ∧ s'.inlet = new ∧ s'.outlet = s.outlet) ∨
        (i + 1 = j ∧ s.outlet = old ∧ s'.outlet = new ∧ s'.inlet = s.inlet) ∨
        (i ≠ j ∧ i + 1 ≠ j ∧ s'.inlet = s.inlet ∧ s'.outlet = s.outlet)) := by
  obtain ⟨h1, h2, h3, h4, h5⟩ := spot?_eq_some.mp hs'
  simp only [setChannel] at h1 h2 h3 h4 h5
  rcases getElem?_set_some h1 with ⟨rfl, e1⟩ | ⟨n1, k1⟩
  · rcases getElem?_set_some h3 with ⟨n3, -⟩ | ⟨-, k3⟩
    · omega
    · exact ⟨{ s' with inlet := old }, spot?_eq_some.mpr ⟨hold, h2, k3, h4, h5⟩, rfl,
        .inl ⟨rfl, rfl, e1, rfl⟩⟩
  · rcases getElem?_set_some h3 with ⟨rfl, e3⟩ | ⟨n3, k3⟩
    · exact ⟨{ s' with outlet := old }, spot?_eq_some.mpr ⟨k1, h2, hold, h4, h5⟩, rfl,
        .inr (.inl ⟨rfl, rfl, e3, rfl⟩)⟩
    · exact ⟨s', spot?_eq_some.mpr ⟨k1, h2, k3, h4, h5⟩, rfl, .inr (.inr ⟨n1, n3, rfl, rfl⟩)⟩

/-- A stage after another stage, or itself, has changed what it sees. -/
theorem spot?_putSpot {i j : Nat} {old new s' : Spot σ α} (hold : c.spot? j = some old)
    (hs' : (c.putSpot j new).spot? i = some s') :
    ∃ s, c.spot? i = some s ∧
      ((i = j ∧ s = old ∧ s'.inlet = new.inlet ∧ s'.crew = new.crew ∧ s'.outlet = new.outlet) ∨
        (i = j + 1 ∧ s.inlet = old.outlet ∧ s'.inlet = new.outlet ∧ s'.crew = s.crew ∧
          s'.outlet = s.outlet) ∨
        (i + 1 = j ∧ s.outlet = old.inlet ∧ s'.outlet = new.inlet ∧ s'.crew = s.crew ∧
          s'.inlet = s.inlet) ∨
        (i ≠ j ∧ i ≠ j + 1 ∧ i + 1 ≠ j ∧ s'.inlet = s.inlet ∧ s'.crew = s.crew ∧
          s'.outlet = s.outlet)) := by
  obtain ⟨o1, o2, o3, o4, o5⟩ := spot?_eq_some.mp hold
  obtain ⟨h1, h2, h3, h4, h5⟩ := spot?_eq_some.mp hs'
  simp only [putSpot] at h1 h2 h3
  rcases getElem?_set_some h2 with ⟨rfl, e2⟩ | ⟨n2, k2⟩
  · rcases getElem?_set_some h3 with ⟨-, e3⟩ | ⟨n3, -⟩
    · rcases getElem?_set_some h1 with ⟨n1, -⟩ | ⟨-, k1⟩
      · omega
      · rcases getElem?_set_some k1 with ⟨-, e1⟩ | ⟨n1, -⟩
        · exact ⟨old, hold, .inl ⟨rfl, rfl, e1, e2, e3⟩⟩
        · exact absurd rfl n1
    · exact absurd rfl n3
  · rcases getElem?_set_some h1 with ⟨rfl, e1⟩ | ⟨n1, k1⟩
    · rcases getElem?_set_some h3 with ⟨n3, -⟩ | ⟨-, k3⟩
      · omega
      rcases getElem?_set_some k3 with ⟨n3, -⟩ | ⟨-, l3⟩
      · omega
      · exact ⟨⟨old.outlet, s'.crew, s'.outlet, c.shared, c.board⟩,
          spot?_eq_some.mpr ⟨o3, k2, l3, rfl, rfl⟩, .inr (.inl ⟨rfl, rfl, e1, rfl, rfl⟩)⟩
    · rcases getElem?_set_some k1 with ⟨n1', -⟩ | ⟨-, l1⟩
      · exact absurd n1' n2
      rcases getElem?_set_some h3 with ⟨n3, -⟩ | ⟨n3, k3⟩
      · omega
      rcases getElem?_set_some k3 with ⟨rfl, e3⟩ | ⟨n3', l3⟩
      · exact ⟨⟨s'.inlet, s'.crew, old.inlet, c.shared, c.board⟩,
          spot?_eq_some.mpr ⟨l1, k2, o1, rfl, rfl⟩, .inr (.inr (.inl ⟨rfl, rfl, e3, rfl, rfl⟩))⟩
      · exact ⟨⟨s'.inlet, s'.crew, s'.outlet, c.shared, c.board⟩,
          spot?_eq_some.mpr ⟨l1, k2, l3, rfl, rfl⟩,
          .inr (.inr (.inr ⟨n2, n1, n3', rfl, rfl, rfl⟩))⟩

theorem Formed.exit_eq (formed : c.Formed) : c.exit = c.crews.length := by
  unfold Formed at formed
  unfold exit
  omega

theorem lt_of_spot? {i : Nat} {s : Spot σ α} (hs : c.spot? i = some s) : i < c.crews.length :=
  (List.getElem?_eq_some_iff.mp (spot?_eq_some.mp hs).2.1).1

theorem scene_append (h : History α) (o : Occurrence α) (i : Nat) (s : Spot σ α) :
    c.scene (h ++ [o]) i s = s.scene c.cancelled (entered i h ++ entered i [o])
      (log i h ++ log i [o])
      (drawn c.crews.length (i + 1) h ++ drawn c.crews.length (i + 1) [o]) := by
  simp only [scene, entered_append, log_append, drawn_append]

theorem next_of_asked {next : Chain σ α} {action : Action α} {answer : Answer α} {h : History α}
    {i : Nat} {s' : Spot σ α} (formed : c.Formed)
    (step : c.Advance (.asked action answer) next) (hs' : next.spot? i = some s') :
    ∃ s, c.spot? i = some s ∧
      (c.scene h i s).Next (next.scene (h ++ [.asked action answer]) i s') := by
  have hexit := formed.exit_eq
  cases step with
  | @sent inlet item first sender receiver room =>
    obtain ⟨s, hs, ecrew, hcase⟩ := spot?_setChannel first hs'
    refine ⟨s, hs, ?_⟩
    rw [scene_append]
    rcases hcase with ⟨rfl, rfl, e1, e2⟩ | ⟨hi, -⟩ | ⟨hi, -, e1, e2⟩
    · have := Scene.Next.arrive (x := c.scene h 0 s) item sender receiver room
      simpa [scene, Spot.scene, setChannel, ecrew, e1, e2, Occurrence.sent?,
        Occurrence.received?] using this
    · omega
    · have := Scene.Next.rest (x := c.scene h i s)
      simpa [scene, Spot.scene, setChannel, ecrew, e1, e2, hi, Occurrence.sent?,
        Occurrence.received?] using this
  | @received outlet value rest last receiver items =>
    obtain ⟨s, hs, ecrew, hcase⟩ := spot?_setChannel last hs'
    have hi := lt_of_spot? hs
    refine ⟨s, hs, ?_⟩
    rw [scene_append]
    rcases hcase with ⟨hi', -⟩ | ⟨hi', rfl, e1, e2⟩ | ⟨-, hi', e1, e2⟩
    · omega
    · have := Scene.Next.fetch (x := c.scene h i s) items
      simpa [scene, Spot.scene, setChannel, ecrew, e1, e2, hexit ▸ hi', Occurrence.sent?,
        Occurrence.received?] using this
    · have hlt : i + 1 < c.crews.length := by omega
      have := Scene.Next.rest (x := c.scene h i s)
      simpa [scene, Spot.scene, setChannel, ecrew, e1, e2, hlt, Occurrence.sent?,
        Occurrence.received?] using this
  | @closed inlet first =>
    obtain ⟨s, hs, ecrew, hcase⟩ := spot?_setChannel first hs'
    refine ⟨s, hs, ?_⟩
    rw [scene_append]
    rcases hcase with ⟨rfl, rfl, e1, e2⟩ | ⟨hi, -⟩ | ⟨-, -, e1, e2⟩
    · have := Scene.Next.close (x := c.scene h 0 s)
      simpa [scene, Spot.scene, setChannel, ecrew, e1, e2, Occurrence.sent?,
        Occurrence.received?] using this
    · omega
    · have := Scene.Next.rest (x := c.scene h i s)
      simpa [scene, Spot.scene, setChannel, ecrew, e1, e2, Occurrence.sent?,
        Occurrence.received?] using this
  | @dropped outlet last =>
    obtain ⟨s, hs, ecrew, hcase⟩ := spot?_setChannel last hs'
    have hi := lt_of_spot? hs
    refine ⟨s, hs, ?_⟩
    rw [scene_append]
    rcases hcase with ⟨hi', -⟩ | ⟨-, rfl, e1, e2⟩ | ⟨-, -, e1, e2⟩
    · omega
    · have := Scene.Next.drop (x := c.scene h i s)
      simpa [scene, Spot.scene, setChannel, ecrew, e1, e2, Occurrence.sent?,
        Occurrence.received?] using this
    · have := Scene.Next.rest (x := c.scene h i s)
      simpa [scene, Spot.scene, setChannel, ecrew, e1, e2, Occurrence.sent?,
        Occurrence.received?] using this
  | cancelled =>
    refine ⟨s', hs', ?_⟩
    rw [scene_append]
    have := Scene.Next.cancel (x := c.scene h i s')
    simpa [scene, Spot.scene, Occurrence.sent?, Occurrence.received?] using this
  | unchanged _ _ sent received =>
    refine ⟨s', hs', ?_⟩
    rw [scene_append]
    have := Scene.Next.rest (x := c.scene h i s')
    simpa [scene, Spot.scene, sent, received] using this

/-- What a worker does is a step for each stage of the chain: its own, the one
that it takes from, the one that it puts into, and the others. -/
theorem next_of_worked {next : Chain σ α} {j w : Nat} {f : Feat α} {h : History α} {i : Nat}
    {s' : Spot σ α} (guarded : c.Guarded) (step : c.Advance (.worked j w f) next)
    (hs' : next.spot? i = some s') :
    ∃ s, c.spot? i = some s ∧ (c.scene h i s).Next (next.scene (h ++ [.worked j w f]) i s') := by
  cases step with
  | @worked _ _ old deed spot does =>
    obtain ⟨s, hs, hcase⟩ := spot?_putSpot spot hs'
    have hi := lt_of_spot? hs
    refine ⟨s, hs, ?_⟩
    rw [scene_append]
    rcases hcase with ⟨rfl, rfl, e1, e2, e3⟩ | ⟨rfl, eq, e1, e2, e3⟩ | ⟨rfl, eq, e1, e2, e3⟩ |
      ⟨n1, n2, n3, e1, e2, e3⟩
    · -- its own stage
      have := Spot.next_of_does does (entered i h) (log i h) (drawn c.crews.length (i + 1) h)
      simpa [scene, Spot.scene, putSpot, e1, e2, e3] using this
    · -- the next stage: the outlet of its own is the inlet
      have far : j ≠ j + 1 + 1 := by omega
      rcases Spot.outlet_perform does with ⟨value, here, going, room, hput, hout⟩ |
        ⟨hput, hout | hout⟩
      · have receiver : s.inlet.hasReceiver = true := by
          rw [eq]
          simp only [Spot.stopped, Bool.or_eq_false_iff, Bool.not_eq_false'] at going
          exact going.2
        have sender : s.inlet.hasSender = true := by
          rw [eq]
          by_contra hno
          have := guarded j old spot (by simpa using hno)
          rw [Crew.not_allGone here rfl] at this
          cases this
        have := Scene.Next.arrive (x := c.scene h (j + 1) s) value sender receiver
          (by simpa [scene, Spot.scene, eq] using room)
        simpa [scene, Spot.scene, putSpot, e1, e2, e3, hput, hout, far, ← eq] using this
      · have := Scene.Next.close (x := c.scene h (j + 1) s)
        simpa [scene, Spot.scene, putSpot, e1, e2, e3, hput, hout, far, ← eq] using this
      · have := Scene.Next.rest (x := c.scene h (j + 1) s)
        simpa [scene, Spot.scene, putSpot, e1, e2, e3, hput, hout, far, ← eq] using this
    · -- the stage before: the inlet of its own is the outlet
      have far : i + 1 + 1 ≠ i := by omega
      rcases Spot.inlet_perform does with ⟨item, rest, items, htook, hin⟩ | ⟨htook, hin | hin⟩
      · have := Scene.Next.fetch (x := c.scene h i s) (by simpa [scene, Spot.scene, eq] using items)
        simpa [scene, Spot.scene, putSpot, e1, e2, e3, htook, hin, far, ← eq,
          lt_of_spot? spot] using this
      · have := Scene.Next.drop (x := c.scene h i s)
        simpa [scene, Spot.scene, putSpot, e1, e2, e3, htook, hin, far, ← eq] using this
      · have := Scene.Next.rest (x := c.scene h i s)
        simpa [scene, Spot.scene, putSpot, e1, e2, e3, htook, hin, far, ← eq] using this
    · have := Scene.Next.rest (x := c.scene h i s)
      simpa [scene, Spot.scene, putSpot, e1, e2, e3, Ne.symm n1, Ne.symm n2, Ne.symm n3] using this

theorem next_of_ended {next : Chain σ α} {j : Nat} {h : History α} {i : Nat} {s' : Spot σ α}
    (step : c.Advance (.ended j) next) (hs' : next.spot? i = some s') :
    ∃ s, c.spot? i = some s ∧ (c.scene h i s).Next (next.scene (h ++ [.ended j]) i s') := by
  cases step with
  | @ended _ old spot can =>
    obtain ⟨s, hs, hcase⟩ := spot?_putSpot spot hs'
    refine ⟨s, hs, ?_⟩
    rw [scene_append]
    rcases hcase with ⟨rfl, rfl, e1, e2, e3⟩ | ⟨rfl, eq, e1, e2, e3⟩ | ⟨rfl, eq, e1, e2, e3⟩ |
      ⟨n1, n2, n3, e1, e2, e3⟩
    · simp only [Spot.canFinish, Bool.and_eq_true, Option.isNone_iff_eq_none] at can
      have := Scene.Next.finish (x := c.scene h i s) can.1 can.2
      simpa [scene, Spot.scene, putSpot, Spot.finish, e1, e2, e3] using this
    · have := Scene.Next.close (x := c.scene h (j + 1) s)
      simpa [scene, Spot.scene, putSpot, Spot.finish, e1, e2, e3, ← eq] using this
    · have := Scene.Next.rest (x := c.scene h i s)
      simpa [scene, Spot.scene, putSpot, Spot.finish, e1, e2, e3, ← eq] using this
    · have := Scene.Next.rest (x := c.scene h i s)
      simpa [scene, Spot.scene, putSpot, Spot.finish, e1, e2, e3] using this

/-- **A step of a chain is a step for each of its stages.** -/
theorem next_of_advance {next : Chain σ α} {o : Occurrence α} {h : History α} {i : Nat}
    {s' : Spot σ α} (formed : c.Formed) (guarded : c.Guarded) (step : c.Advance o next)
    (hs' : next.spot? i = some s') :
    ∃ s, c.spot? i = some s ∧ (c.scene h i s).Next (next.scene (h ++ [o]) i s') := by
  cases o with
  | asked => exact next_of_asked formed step hs'
  | worked => exact next_of_worked guarded step hs'
  | ended => exact next_of_ended step hs'

end Chain

end DocSieve
