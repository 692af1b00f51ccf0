import DocSieve.Proofs.Chain.Channel
import DocSieve.Proofs.Chain.History

/-!
# What one step can do

A step of a chain is one of eight things: an item goes into the first channel,
a value comes out of the last one, either of these loses its outer end, the
chain is cancelled, a request changes nothing, a worker does something, or a
stage ends. What a worker does, its guards permit. Everything that is proved about
runs goes through these cases.

Key definitions: `Stage.Yields`, `Stage.Computes`, `Spot.Does`, `Chain.Advance`.
Key theorem: `Chain.advance_of_advance?`.
-/

namespace DocSieve

variable {σ α : Type}

/-- The transform, in some shared state, makes the value of the item; none for
an item on which it fails or crashes. -/
def Stage.Yields (stage : Stage σ α) (item : α) (value : Option α) : Prop :=
  ∃ shared, (stage.transform shared item).2.value? = value

/-- The transform gives what `f` gives, whatever the shared state is. -/
def Stage.Computes (stage : Stage σ α) (f : α → Option α) : Prop :=
  ∀ shared item, (stage.transform shared item).2.value? = f item

theorem Stage.Computes.eq_of_yields {stage : Stage σ α} {f : α → Option α}
    (computes : stage.Computes f) {item : α} {value : Option α}
    (yields : stage.Yields item value) : f item = value := by
  obtain ⟨shared, rfl⟩ := yields
  exact (computes shared item).symm

/-- A stage that halves even numbers and fails on odd ones. -/
def halving (name : String) (workers slots : Nat) : Stage Unit Nat :=
  .make name workers slots fun shared n => (shared, if n % 2 = 0 then .done (n / 2) else .failed)

theorem halving_computes (name : String) (workers slots : Nat) :
    (halving name workers slots).Computes fun n => if n % 2 = 0 then some (n / 2) else none := by
  intro shared item
  simp only [halving, Stage.make]
  split <;> rfl

/-! ### Workers -/

namespace Spot

variable {s : Spot σ α} {cancelled : Bool} {w : Nat} {deed : Deed α}

/-- A worker that looks around leaves. -/
def stopped (s : Spot σ α) (cancelled : Bool) : Bool := cancelled || !s.outlet.hasReceiver

/-- What a worker does, with all that permits it. -/
inductive Does (s : Spot σ α) (cancelled : Bool) (w : Nat) : Deed α → Prop
  | take {item : α} {rest : List α} (idle : s.crew.workers[w]? = some .idle)
      (going : s.stopped cancelled = false) (items : s.inlet.items = item :: rest) :
      Does s cancelled w (.take item)
  | transform {item : α} (busy : s.crew.workers[w]? = some (.busy item)) :
      Does s cancelled w (.transform item)
  | put {value : α} (holding : s.crew.workers[w]? = some (.holding value))
      (going : s.stopped cancelled = false) (room : s.outlet.hasRoom = true) :
      Does s cancelled w (.put value)
  | leave {worker : Worker α} (here : s.crew.workers[w]? = some worker)
      (reason : worker = .idle ∧
          (s.stopped cancelled = true ∨ s.inlet.items = [] ∧ s.inlet.hasSender = false) ∨
        (∃ value, worker = .holding value) ∧ s.stopped cancelled = true) :
      Does s cancelled w .leave

theorem does_of_deed? (does : s.deed? cancelled w = some deed) : s.Does cancelled w deed := by
  simp only [deed?, Option.bind_eq_some_iff] at does
  obtain ⟨worker, here, does⟩ := does
  cases worker with
  | idle =>
    simp only [deedOf?] at does
    cases stop : cancelled || !s.outlet.hasReceiver
    · simp only [stop, Bool.false_eq_true, ↓reduceIte] at does
      cases items : s.inlet.items with
      | cons item rest =>
        simp only [items, Option.some.injEq] at does
        subst does
        exact .take here stop items
      | nil =>
        simp only [items, Option.ite_none_left_eq_some, Bool.not_eq_true, Option.some.injEq] at does
        obtain ⟨sender, rfl⟩ := does
        exact .leave here (.inl ⟨rfl, .inr ⟨items, sender⟩⟩)
    · simp only [stop, ↓reduceIte, Option.some.injEq] at does
      subst does
      exact .leave here (.inl ⟨rfl, .inl stop⟩)
  | busy item =>
    simp only [deedOf?, Option.some.injEq] at does
    subst does
    exact .transform here
  | holding value =>
    simp only [deedOf?] at does
    cases stop : cancelled || !s.outlet.hasReceiver
    · simp only [stop, Bool.false_eq_true, ↓reduceIte, Option.ite_none_right_eq_some,
        Option.some.injEq] at does
      obtain ⟨room, rfl⟩ := does
      exact .put here stop room
    · simp only [stop, ↓reduceIte, Option.some.injEq] at does
      subst does
      exact .leave here (.inr ⟨⟨value, rfl⟩, stop⟩)
  | gone => simp [deedOf?] at does

theorem transform_cases (s : Spot σ α) (w : Nat) (item : α) :
    (∃ value, s.crew.stage.Yields item (some value) ∧
      s.feat (.transform item) = .made item value ∧
      (s.transform w item).inlet = s.inlet ∧ (s.transform w item).outlet = s.outlet ∧
      (s.transform w item).crew = s.crew.setWorker w (.holding value) ∧
      (s.transform w item).board = s.board) ∨
    (s.crew.stage.Yields item none ∧ s.feat (.transform item) = .failed item ∧
      (s.transform w item).inlet = s.inlet ∧ (s.transform w item).outlet = s.outlet ∧
      (s.transform w item).crew = (s.crew.setWorker w .idle).count w .fail ∧
      (s.transform w item).board = s.board.update s.name (·.fail)) := by
  cases outcome : (s.crew.stage.transform s.shared item).2 with
  | done value =>
    refine .inl ⟨value, ⟨s.shared, congrArg Outcome.value? outcome⟩, ?_⟩
    simp [transform, feat, outcome, Outcome.value?]
  | failed =>
    refine .inr ⟨⟨s.shared, congrArg Outcome.value? outcome⟩, ?_⟩
    simp [transform, feat, outcome, Outcome.value?]
  | crashed =>
    refine .inr ⟨⟨s.shared, congrArg Outcome.value? outcome⟩, ?_⟩
    simp [transform, feat, outcome, Outcome.value?]

/-- A deed takes the oldest item out of the inlet, drops the handle to it, or leaves it
as it is. -/
theorem inlet_perform (does : s.Does cancelled w deed) :
    (∃ item rest, s.inlet.items = item :: rest ∧ (s.feat deed).took? = some item ∧
      (s.perform w deed).inlet = { s.inlet with items := rest }) ∨
    ((s.feat deed).took? = none ∧
      ((s.perform w deed).inlet = s.inlet.dropReceiver ∨ (s.perform w deed).inlet = s.inlet)) := by
  cases does with
  | @take item rest _ _ items =>
    exact .inl ⟨item, rest, items, rfl, by simp [perform, take, items]⟩
  | @transform item _ =>
    right
    rcases s.transform_cases w item with ⟨value, -, h1, h2, -⟩ | ⟨-, h1, h2, -⟩ <;>
    · rw [h1]
      exact ⟨rfl, .inr h2⟩
  | put => exact .inr ⟨rfl, .inr rfl⟩
  | leave => exact .inr ⟨rfl, .inl rfl⟩

/-- A deed puts a value into the outlet, drops the handle to it, or leaves it as it is. -/
theorem outlet_perform (does : s.Does cancelled w deed) :
    (∃ value, s.crew.workers[w]? = some (.holding value) ∧ s.stopped cancelled = false ∧
      s.outlet.hasRoom = true ∧ (s.feat deed).put? = some value ∧
      (s.perform w deed).outlet = s.outlet.push value) ∨
    ((s.feat deed).put? = none ∧
      ((s.perform w deed).outlet = s.outlet.dropSender ∨
        (s.perform w deed).outlet = s.outlet)) := by
  cases does with
  | take => exact .inr ⟨rfl, .inr rfl⟩
  | @transform item _ =>
    right
    rcases s.transform_cases w item with ⟨value, -, h1, -, h3, -⟩ | ⟨-, h1, -, h3, -⟩ <;>
    · rw [h1]
      exact ⟨rfl, .inr h3⟩
  | @put value holding going room => exact .inl ⟨value, holding, going, room, rfl, rfl⟩
  | leave => exact .inr ⟨rfl, .inl rfl⟩

theorem stage_perform (does : s.Does cancelled w deed) :
    (s.perform w deed).crew.stage = s.crew.stage := by
  cases does with
  | @transform item _ =>
    rcases s.transform_cases w item with ⟨value, -, -, -, -, h, -⟩ | ⟨-, -, -, -, h, -⟩ <;>
    · simp only [perform, h]
      rfl
  | _ => rfl

end Spot

/-! ### Chains -/

theorem set_eq_of_getElem? {l : List α} {i : Nat} {a : α} (h : l[i]? = some a) : l.set i a = l := by
  obtain ⟨hi, rfl⟩ := List.getElem?_eq_some_iff.mp h
  exact List.set_getElem_self hi

theorem getElem?_set_some {β : Type} {l : List β} {i j : Nat} {a b : β}
    (h : (l.set j a)[i]? = some b) : i = j ∧ b = a ∨ i ≠ j ∧ l[i]? = some b := by
  rw [List.getElem?_set] at h
  by_cases hij : j = i
  · subst hij
    simp only [↓reduceIte, Option.ite_none_right_eq_some, Option.some.injEq] at h
    exact .inl ⟨rfl, h.2.symm⟩
  · simp only [hij, ↓reduceIte] at h
    exact .inr ⟨Ne.symm hij, h⟩

namespace Chain

variable (c : Chain σ α)

/-- The chain with another channel in one place. -/
def setChannel (i : Nat) (channel : Channel α) : Chain σ α :=
  { c with channels := c.channels.set i channel }

/-- What one step can do to a chain, and what it shows. -/
inductive Advance : Occurrence α → Chain σ α → Prop
  | sent {inlet : Channel α} (item : α) (first : c.channels[0]? = some inlet)
      (sender : inlet.hasSender = true) (receiver : inlet.hasReceiver = true)
      (room : inlet.hasRoom = true) :
      Advance (.asked (.send item) .sent) (c.setChannel 0 (inlet.push item))
  | received {outlet : Channel α} {value : α} {rest : List α}
      (last : c.channels[c.exit]? = some outlet) (receiver : outlet.hasReceiver = true)
      (items : outlet.items = value :: rest) :
      Advance (.asked .receive (.value value)) (c.setChannel c.exit { outlet with items := rest })
  | closed {inlet : Channel α} (first : c.channels[0]? = some inlet) :
      Advance (.asked .close .none) (c.setChannel 0 inlet.dropSender)
  | dropped {outlet : Channel α} (last : c.channels[c.exit]? = some outlet) :
      Advance (.asked .drop .none) (c.setChannel c.exit outlet.dropReceiver)
  | cancelled : Advance (.asked .cancel .none) { c with cancelled := true }
  | unchanged (action : Action α) (answer : Answer α)
      (sent : (Occurrence.asked action answer).sent? = none)
      (received : (Occurrence.asked action answer).received? = none) :
      Advance (.asked action answer) c
  | worked {i w : Nat} {s : Spot σ α} {deed : Deed α} (spot : c.spot? i = some s)
      (does : s.Does c.cancelled w deed) :
      Advance (.worked i w (s.feat deed)) (c.putSpot i (s.perform w deed))
  | ended {i : Nat} {s : Spot σ α} (spot : c.spot? i = some s) (can : s.canFinish = true) :
      Advance (.ended i) (c.putSpot i (s.finish c.cancelled))

theorem setChannel_self {i : Nat} {channel : Channel α} (h : c.channels[i]? = some channel) :
    c.setChannel i channel = c := by
  simp only [setChannel, set_eq_of_getElem? h]

theorem advance_of_send (item : α) :
    c.Advance (.asked (.send item) (c.act (.send item)).2) (c.act (.send item)).1 := by
  simp only [act, onChannel]
  cases first : c.channels[0]? with
  | none => exact .unchanged _ _ rfl rfl
  | some inlet =>
    change c.Advance (.asked _ (inlet.send item).2) (c.setChannel 0 (inlet.send item).1)
    rcases inlet.send_cases item with ⟨sender, receiver, room, h⟩ | ⟨h, refused⟩
    · rw [h]
      exact .sent item first sender receiver room
    · rw [h, c.setChannel_self first]
      refine .unchanged _ _ ?_ rfl
      cases answer : (inlet.send item).2 <;> first | rfl | exact absurd answer refused

theorem advance_of_receive :
    c.Advance (.asked .receive (c.act .receive).2) (c.act .receive).1 := by
  simp only [act, onChannel]
  cases last : c.channels[c.exit]? with
  | none => exact .unchanged _ _ rfl rfl
  | some outlet =>
    change c.Advance (.asked _ outlet.receive.2) (c.setChannel c.exit outlet.receive.1)
    rcases outlet.receive_cases with ⟨value, rest, receiver, items, h⟩ | ⟨h, refused⟩
    · rw [h]
      exact .received last receiver items
    · rw [h, c.setChannel_self last]
      refine .unchanged _ _ rfl ?_
      cases answer : outlet.receive.2 <;> first | rfl | exact absurd answer (refused _)

theorem advance_of_act (action : Action α) :
    c.Advance (.asked action (c.act action).2) (c.act action).1 := by
  cases action with
  | send item => exact c.advance_of_send item
  | receive => exact c.advance_of_receive
  | close =>
    simp only [act, onChannel]
    cases first : c.channels[0]? with
    | none => exact .unchanged _ _ rfl rfl
    | some inlet => exact .closed first
  | cancel => exact .cancelled
  | drop =>
    simp only [act, onChannel]
    cases last : c.channels[c.exit]? with
    | none => exact .unchanged _ _ rfl rfl
    | some outlet => exact .dropped last

/-- Every step is one of the eight. -/
theorem advance_of_advance? {c next : Chain σ α} {step : Step α} {o : Occurrence α}
    (h : c.advance? step = some (next, o)) : c.Advance o next := by
  cases step with
  | ask action =>
    obtain ⟨rfl, rfl⟩ : (c.act action).1 = next ∧ .asked action (c.act action).2 = o := by
      simpa [advance?] using h
    exact c.advance_of_act action
  | move m =>
    cases m with
    | poll i w =>
      simp only [advance?, step?, occurrence?, Option.bind_eq_bind, Option.bind_eq_some_iff,
        Option.pure_def, Option.some.injEq, Prod.mk.injEq] at h
      obtain ⟨_, ⟨s, spot, deed, does, rfl⟩, _, ⟨s', spot', deed', does', rfl⟩, rfl, rfl⟩ := h
      obtain rfl : s = s' := Option.some.inj (spot.symm.trans spot')
      obtain rfl : deed = deed' := Option.some.inj (does.symm.trans does')
      exact .worked spot (Spot.does_of_deed? does)
    | finish i =>
      simp only [advance?, step?, occurrence?, Option.bind_eq_bind, Option.bind_eq_some_iff,
        Option.pure_def, Option.some.injEq, Prod.mk.injEq, Option.ite_none_right_eq_some] at h
      obtain ⟨_, ⟨s, spot, can, rfl⟩, _, rfl, rfl, rfl⟩ := h
      exact .ended spot can

theorem eq_ask_of_asked {c next : Chain σ α} {step : Step α} {action : Action α}
    {answer : Answer α} (h : c.advance? step = some (next, .asked action answer)) :
    step = .ask action := by
  cases step with
  | ask other =>
    simp only [advance?, Option.some.injEq, Prod.mk.injEq, Occurrence.asked.injEq] at h
    rw [h.2.1]
  | move m => cases m <;> simp [advance?, occurrence?, Option.bind_eq_some_iff] at h

end Chain

end DocSieve
