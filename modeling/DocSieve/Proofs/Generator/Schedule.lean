import DocSieve.Generator.Pacer
import DocSieve.Proofs.Chain.Channel
import DocSieve.Proofs.Replay

/-!
# Schedules of the pacer

A run of the pacer is any list of steps: it goes on by itself where it can, the clock
moves on, and from outside a request is received, the pacer is cancelled, or its
receiver is dropped, in any order. The history of a run tells which requests were made,
and when, and what was received.

Sleeping and waiting for a request are such runs (`reaches_sleep`, `await_cases`): the
pacer goes on by itself until it cannot, which takes no more steps than its energy
(`step?_settle`).

Key definitions: `Pacer.Step`, `Pacer.advance?`, `Pacer.Next`, `Pacer.Reaches`.
Key theorems: `Pacer.next_of_advance?`, `Pacer.step?_settle`, `Pacer.reaches_sleep`,
`Pacer.await_cases`.
-/

namespace DocSieve

theorem Workload.period_pos (w : Workload) : 0 < w.period := by
  unfold period
  omega

namespace Pacer

/-- One step of a run. -/
inductive Step
  /-- The pacer does something by itself. -/
  | go
  /-- The clock moves on. -/
  | pass (duration : Nat)
  | receive
  | cancel
  | drop
  deriving DecidableEq

/-- What one step shows. -/
inductive Occurrence
  | made (time : Nat) (request : Request)
  | received (answer : Answer Request)
  | quiet

/-- What the steps of a run showed, oldest first. -/
abbrev History := List Occurrence

/-- The request that was made. -/
def Occurrence.made? : Occurrence → Option Request
  | .made _ request => some request
  | _ => none

/-- The request that was received. -/
def Occurrence.received? : Occurrence → Option Request
  | .received (.value request) => some request
  | _ => none

namespace History

def made (h : History) : List Request := h.filterMap (·.made?)

def received (h : History) : List Request := h.filterMap (·.received?)

theorem made_append (h t : History) : made (h ++ t) = made h ++ made t := List.filterMap_append

theorem received_append (h t : History) : received (h ++ t) = received h ++ received t :=
  List.filterMap_append

theorem made_concat (h : History) (o : Occurrence) :
    made (h ++ [o]) = made h ++ o.made?.toList := by
  rw [made_append]
  cases o <;> rfl

theorem received_concat (h : History) (o : Occurrence) :
    received (h ++ [o]) = received h ++ o.received?.toList := by
  rw [received_append]
  rcases o with _ | answer | _
  · rfl
  · cases answer <;> rfl
  · rfl

end History

/-- What going on from one state to another shows: a request is made where the pacer
waited before and sends one now. -/
def shown (p next : Pacer) : Occurrence :=
  match p.phase, next.phase with
  | .waiting, .sending request => .made p.now request
  | _, _ => .quiet

/-- The pacer after a step, and what the step shows; only by itself it may be unable to
go on. -/
def advance? (p : Pacer) : Step → Option (Pacer × Occurrence)
  | .go => p.step?.map fun next => (next, p.shown next)
  | .pass duration => some ({ p with now := p.now + duration }, .quiet)
  | .receive => some (p.tryReceive.1, .received p.tryReceive.2)
  | .cancel => some ({ p with cancelled := true }, .quiet)
  | .drop => some ({ p with output := p.output.dropReceiver }, .quiet)

/-- The pacer after some steps, and their history, if each can be made in its turn. -/
abbrev replay : List Step → Pacer → Option (Pacer × History) := replayWith advance?

variable {p q : Pacer}

/-! ### One step -/

/-- All that one step can do. -/
inductive Next (p : Pacer) : Step → Occurrence → Pacer → Prop
  | start (phase : p.phase = .starting) : Next p .go .quiet (next { p with deadline := p.now })
  | fire (phase : p.phase = .waiting) (running : p.cancelled = false) (due : p.deadline ≤ p.now) :
    Next p .go (.made p.now (p.workload.request p.words p.position p.counter).1) p.fire
  | send {request : Request} (phase : p.phase = .sending request) (running : p.cancelled = false)
    (receiver : p.output.hasReceiver = true) (room : p.output.hasRoom = true) :
    Next p .go .quiet (p.sent request)
  | stop (phase : p.phase = .waiting ∧ p.cancelled = true ∨
      ∃ request, p.phase = .sending request ∧
        (p.cancelled = true ∨ p.output.hasReceiver = false)) : Next p .go .quiet p.stop
  | pass (duration : Nat) : Next p (.pass duration) .quiet { p with now := p.now + duration }
  | take {request : Request} {rest : List Request} (items : p.output.items = request :: rest)
    (receiver : p.output.hasReceiver = true) :
    Next p .receive (.received (.value request)) { p with output.items := rest }
  | miss {answer : Answer Request} (none : (Occurrence.received answer).received? = none) :
    Next p .receive (.received answer) p
  | cancel : Next p .cancel .quiet { p with cancelled := true }
  | drop : Next p .drop .quiet { p with output := p.output.dropReceiver }

/-- What the pacer does by itself is one of four things. -/
theorem next_of_step? (step : p.step? = some q) : Next p .go (p.shown q) q := by
  cases phase : p.phase with
  | starting =>
    simp only [step?, phase, Option.some_inj] at step
    subst step
    simpa only [shown, phase] using Next.start phase
  | waiting =>
    simp only [step?, phase] at step
    split at step
    · rename_i cancelled
      cases step
      simpa only [shown, phase, stop] using Next.stop (.inl ⟨phase, cancelled⟩)
    split at step
    · rename_i running due
      cases step
      simpa only [shown, phase, fire] using Next.fire phase (by simpa using running) due
    · cases step
  | sending request =>
    simp only [step?, phase] at step
    split at step
    · rename_i ends
      cases step
      simp only [Bool.or_eq_true, Bool.not_eq_true'] at ends
      simpa only [shown, phase] using Next.stop (.inr ⟨request, phase, ends⟩)
    split at step
    · rename_i running room
      cases step
      simp only [Bool.or_eq_true, Bool.not_eq_true', not_or, Bool.not_eq_true,
        Bool.not_eq_false] at running
      simpa only [shown, phase] using Next.send phase running.1 running.2 room
    · cases step
  | stopped =>
    simp only [step?, phase] at step
    cases step

theorem exists_next_of_step? (step : p.step? = some q) : ∃ o, Next p .go o q :=
  ⟨_, next_of_step? step⟩

/-- **Each step does one of nine things.** -/
theorem next_of_advance? {step : Step} {o : Occurrence} (advance : p.advance? step = some (q, o)) :
    Next p step o q := by
  cases step with
  | go =>
    simp only [advance?, Option.map_eq_some_iff, Prod.mk.injEq] at advance
    obtain ⟨next, hstep, rfl, rfl⟩ := advance
    exact next_of_step? hstep
  | pass duration =>
    cases advance
    exact .pass duration
  | receive =>
    cases advance
    unfold tryReceive
    rcases p.output.receive_cases with ⟨request, rest, receiver, items, h⟩ | ⟨h, refused⟩
    · rw [h]
      exact .take items receiver
    · change Next p .receive (.received p.output.receive.2) { p with output := p.output.receive.1 }
      rw [h]
      refine .miss ?_
      cases answer : p.output.receive.2 <;> first | rfl | exact absurd answer (refused _)
  | cancel =>
    cases advance
    exact .cancel
  | drop =>
    cases advance
    exact .drop

/-! ### Going on until it cannot -/

@[simp] theorem next_now (p : Pacer) : p.next.now = p.now := by
  unfold next
  split <;> rfl

@[simp] theorem next_cancelled (p : Pacer) : p.next.cancelled = p.cancelled := by
  unfold next
  split <;> rfl

@[simp] theorem next_items (p : Pacer) : p.next.output.items = p.output.items := by
  unfold next
  split <;> rfl

@[simp] theorem next_capacity (p : Pacer) : p.next.output.capacity = p.output.capacity := by
  unfold next
  split <;> rfl

@[simp] theorem next_hasReceiver (p : Pacer) :
    p.next.output.hasReceiver = p.output.hasReceiver := by
  unfold next
  split <;> rfl

@[simp] theorem next_receivers (p : Pacer) : p.next.output.receivers = p.output.receivers := by
  unfold next
  split <;> rfl

/-- What the pacer leaves alone when it goes on by itself. -/
structure Keeps (p q : Pacer) : Prop where
  now : q.now = p.now
  cancelled : q.cancelled = p.cancelled
  receiver : q.output.hasReceiver = p.output.hasReceiver
  capacity : q.output.capacity = p.output.capacity
  items : p.output.items <+: q.output.items

theorem Keeps.refl (p : Pacer) : p.Keeps p := ⟨rfl, rfl, rfl, rfl, List.prefix_rfl⟩

theorem Keeps.trans {r : Pacer} (h : p.Keeps q) (h' : q.Keeps r) : p.Keeps r :=
  ⟨h'.now.trans h.now, h'.cancelled.trans h.cancelled, h'.receiver.trans h.receiver,
    h'.capacity.trans h.capacity, h.items.trans h'.items⟩

theorem keeps_of_step? (step : p.step? = some q) : p.Keeps q := by
  obtain ⟨o, next⟩ := exists_next_of_step? step
  cases next with
  | start => constructor <;> simp
  | fire => exact ⟨rfl, rfl, rfl, rfl, List.prefix_rfl⟩
  | send =>
    refine ⟨?_, ?_, by simp [sent], ?_, ?_⟩ <;> simp [sent, Channel.push]
  | stop => exact ⟨rfl, rfl, rfl, rfl, List.prefix_rfl⟩

/-- A tick moves the deadline on, past the time or by a period. -/
theorem energy_fire (phase : p.phase = .waiting) (due : p.deadline ≤ p.now) :
    p.fire.energy < p.energy := by
  have period := p.workload.period_pos
  simp only [energy, phase, fire]
  unfold nextDeadline
  split <;> omega

theorem energy_next_le (p : Pacer) : p.next.energy ≤ 2 * (p.now + 1 - p.deadline) + 1 := by
  unfold next
  split <;> simp [energy, stop]

/-- Whatever the pacer does by itself lowers its energy. -/
theorem energy_lt (step : p.step? = some q) : q.energy < p.energy := by
  obtain ⟨o, next⟩ := exists_next_of_step? step
  cases next with
  | start phase =>
    have := energy_next_le { p with deadline := p.now }
    simp only [energy, phase] at this ⊢
    omega
  | fire phase _ due => exact energy_fire phase due
  | send phase =>
    rename_i request _ _ _
    have := energy_next_le { p with output := p.output.push request, counter := p.counter + 1 }
    unfold sent
    simp only [energy, phase] at this ⊢
    omega
  | stop phase =>
    rcases phase with ⟨phase, -⟩ | ⟨request, phase, -⟩ <;> simp [energy, stop, phase]

theorem step?_settleIn {fuel : Nat} (enough : p.energy ≤ fuel) :
    (settleIn fuel p).step? = none := by
  induction fuel generalizing p with
  | zero =>
    cases step : p.step? with
    | none => exact step
    | some q => exact absurd (energy_lt step) (by omega)
  | succ fuel ih =>
    unfold settleIn
    cases step : p.step? with
    | none => exact step
    | some q => exact ih (by have := energy_lt step; omega)

/-- **A settled pacer cannot go on at its time.** -/
theorem step?_settle (p : Pacer) : p.settle.step? = none := step?_settleIn le_rfl

theorem keeps_settleIn (fuel : Nat) (p : Pacer) : p.Keeps (settleIn fuel p) := by
  induction fuel generalizing p with
  | zero => exact .refl p
  | succ fuel ih =>
    unfold settleIn
    cases step : p.step? with
    | none => exact .refl p
    | some q => exact (keeps_of_step? step).trans (ih q)

theorem keeps_settle (p : Pacer) : p.Keeps p.settle := keeps_settleIn _ p

/-! ### What the pacer does as time goes by -/

/-- Nothing is asked from outside. -/
def Step.isOwn : Step → Bool
  | .go | .pass _ => true
  | _ => false

/-- The pacer gets there by itself, as time goes by. -/
def Reaches (p q : Pacer) : Prop :=
  ∃ steps h, replay steps p = some (q, h) ∧ ∀ step ∈ steps, step.isOwn = true

namespace Reaches

theorem refl (p : Pacer) : p.Reaches p := ⟨[], [], rfl, nofun⟩

theorem trans {r : Pacer} (h : p.Reaches q) (h' : q.Reaches r) : p.Reaches r := by
  obtain ⟨first, shown, run, own⟩ := h
  obtain ⟨second, shown', run', own'⟩ := h'
  exact ⟨first ++ second, shown ++ shown', replayWith_append run run',
    List.forall_mem_append.mpr ⟨own, own'⟩⟩

theorem go (step : p.step? = some q) : p.Reaches q :=
  ⟨[.go], [p.shown q], by simp [replayWith, advance?, step], by simp [Step.isOwn]⟩

theorem pass {time : Nat} (later : p.now ≤ time) : p.Reaches { p with now := time } :=
  ⟨[.pass (time - p.now)], [.quiet], by simp [replayWith, advance?, Nat.add_sub_cancel' later],
    by simp [Step.isOwn]⟩

end Reaches

theorem reaches_settleIn (fuel : Nat) (p : Pacer) : p.Reaches (settleIn fuel p) := by
  induction fuel generalizing p with
  | zero => exact .refl p
  | succ fuel ih =>
    unfold settleIn
    cases step : p.step? with
    | none => exact .refl p
    | some q => exact (Reaches.go step).trans (ih q)

theorem reaches_settle (p : Pacer) : p.Reaches p.settle := reaches_settleIn _ p

theorem reaches_moveTo {time : Nat} (later : p.now ≤ time) : p.Reaches (p.moveTo time) :=
  (Reaches.pass later).trans (reaches_settle _)

theorem moveTo_now (p : Pacer) (time : Nat) : (p.moveTo time).now = time := (keeps_settle _).now

theorem now_le_wakeTime {wake : Nat} (wakes : p.wakeTime? = some wake) : p.now ≤ wake := by
  unfold wakeTime? at wakes
  split at wakes
  · cases wakes
    exact le_max_left _ _
  · cases wakes

theorem reaches_runUntil {time : Nat} (fuel : Nat) (later : p.now ≤ time) :
    p.Reaches (runUntil time fuel p) := by
  induction fuel generalizing p with
  | zero => exact .refl p
  | succ fuel ih =>
    unfold runUntil
    cases wakes : p.wakeTime? with
    | none => exact reaches_moveTo later
    | some wake =>
      dsimp only
      split
      · rename_i soon
        refine (reaches_moveTo (now_le_wakeTime wakes)).trans (ih ?_)
        rwa [moveTo_now]
      · exact reaches_moveTo later

/-- **Sleeping is going on as time goes by.** -/
theorem reaches_sleep (p : Pacer) (duration : Nat) : p.Reaches (p.sleep duration) :=
  (reaches_settle p).trans (reaches_runUntil _ (Nat.le_add_right _ _))

theorem waiting_of_settled (settled : p.step? = none) (phase : p.phase = .waiting) :
    p.cancelled = false ∧ p.now < p.deadline := by
  simp only [step?, phase] at settled
  split at settled
  · cases settled
  rename_i running
  split at settled
  · cases settled
  · rename_i early
    exact ⟨by simpa using running, by omega⟩

theorem wakeTime_of_settled {wake : Nat} (settled : p.step? = none)
    (wakes : p.wakeTime? = some wake) : p.now < wake ∧ millisecond ∣ wake := by
  unfold wakeTime? at wakes
  split at wakes
  · rename_i phase
    cases wakes
    obtain ⟨-, early⟩ := waiting_of_settled settled phase
    have rounded : p.deadline ≤ (p.deadline + (millisecond - 1)) / millisecond * millisecond := by
      unfold millisecond
      omega
    rw [max_eq_right (by omega)]
    exact ⟨by omega, Nat.dvd_mul_left _ _⟩
  · cases wakes

/-- Each time the pacer is woken a millisecond more has passed. -/
theorem runUntil_now {time fuel : Nat} (settled : p.step? = none) (later : p.now ≤ time)
    (enough : time / millisecond < p.now / millisecond + fuel) :
    (runUntil time fuel p).now = time := by
  induction fuel generalizing p with
  | zero =>
    have := Nat.div_le_div_right (c := millisecond) later
    omega
  | succ fuel ih =>
    unfold runUntil
    cases wakes : p.wakeTime? with
    | none => exact p.moveTo_now time
    | some wake =>
      dsimp only
      split
      · rename_i soon
        obtain ⟨late, whole⟩ := wakeTime_of_settled settled wakes
        have passed : p.now / millisecond < wake / millisecond :=
          Nat.div_lt_div_of_lt_of_dvd whole late
        refine ih (step?_settle _) (by rwa [moveTo_now]) ?_
        rw [moveTo_now]
        omega
      · exact p.moveTo_now time

/-- **The clock moves on by what was slept.** -/
theorem sleep_now (p : Pacer) (duration : Nat) : (p.sleep duration).now = p.now + duration := by
  have now := (keeps_settle p).now
  unfold sleep
  rw [← now]
  refine runUntil_now (step?_settle p) (Nat.le_add_right _ _) ?_
  unfold millisecond
  omega

/-- The settled pacer when a request is there, or none will be. -/
def ready (p : Pacer) : Pacer :=
  match p.settle.output.items, p.settle.wakeTime? with
  | [], some wake => p.settle.moveTo wake
  | _, _ => p.settle

theorem reaches_ready (p : Pacer) : p.Reaches p.ready := by
  unfold ready
  split
  · rename_i wake _ wakes
    exact (reaches_settle p).trans (reaches_moveTo (now_le_wakeTime wakes))
  · exact reaches_settle p

theorem items_of_due (phase : p.phase = .waiting) (running : p.cancelled = false)
    (due : p.deadline ≤ p.now) (receiver : p.output.hasReceiver = true)
    (room : p.output.hasRoom = true) : p.settle.output.items ≠ [] := by
  have fires : p.step? = some p.fire := by simp [step?, phase, running, due]
  obtain ⟨request, making⟩ : ∃ request, p.fire.phase = .sending request := ⟨_, rfl⟩
  have sends : p.fire.step? = some (p.fire.sent request) := by
    have same : p.fire.output = p.output := rfl
    simp [step?, making, same, receiver, room, show p.fire.cancelled = false from running]
  obtain ⟨fuel, energy⟩ : ∃ fuel, p.energy = fuel + 2 := by
    have first := energy_lt fires
    have second := energy_lt sends
    exact ⟨p.energy - 2, by omega⟩
  have kept := (keeps_settleIn fuel (p.fire.sent request)).items
  unfold settle
  rw [energy]
  simp only [settleIn, fires, sends]
  intro empty
  rw [empty, List.prefix_nil] at kept
  simp [sent, Channel.push] at kept

/-- Whoever waits for a request with slots to hold it waits in vain only if the pacer has
stopped. -/
theorem ready_cases (slots : 0 < p.output.capacity) (receiver : p.output.hasReceiver = true) :
    p.ready.output.items ≠ [] ∨ p.ready.phase = .stopped := by
  have settled := step?_settle p
  have kept := keeps_settle p
  rw [← kept.capacity] at slots
  rw [← kept.receiver] at receiver
  unfold ready
  by_cases items : p.settle.output.items = []
  · have room : p.settle.output.hasRoom = true := by simp [Channel.hasRoom, items, slots]
    cases phase : p.settle.phase with
    | starting => simp [step?, phase] at settled
    | waiting =>
      obtain ⟨running, -⟩ := waiting_of_settled settled phase
      have wakes : p.settle.wakeTime? = some (max p.settle.now
          ((p.settle.deadline + (millisecond - 1)) / millisecond * millisecond)) := by
        simp only [wakeTime?, phase]
      rw [items, wakes]
      refine .inl (items_of_due phase running (le_trans ?_ (le_max_right _ _)) receiver room)
      show p.settle.deadline ≤ _
      unfold millisecond
      omega
    | sending request =>
      simp only [step?, phase, receiver, room] at settled
      split at settled <;> cases settled
    | stopped =>
      have asleep : p.settle.wakeTime? = none := by simp only [wakeTime?, phase]
      rw [items, asleep]
      exact .inr phase
  · left
    split
    · rename_i empty _
      exact absurd empty items
    · exact items

theorem await_eq (p : Pacer) : p.await =
    match p.ready.output.receive with
    | (output, .value request) => (settle { p.ready with output }, some request)
    | _ => (p.ready, none) := rfl

/-- **Waiting for a request is going on until it is there, and receiving it**, or going
on until there is nothing to receive. -/
theorem await_cases (p : Pacer) :
    (∃ request rest, p.ready.output.hasReceiver = true ∧
      p.ready.output.items = request :: rest ∧ p.await =
        (settle { p.ready with output := { p.ready.output with items := rest } }, some request)) ∨
    (p.await = (p.ready, none) ∧ ∀ request, p.ready.output.receive.2 ≠ .value request) := by
  rw [await_eq]
  rcases p.ready.output.receive_cases with ⟨request, rest, receiver, items, h⟩ | ⟨-, refused⟩
  · rw [h]
    exact .inl ⟨request, rest, receiver, items, rfl⟩
  · refine .inr ⟨?_, refused⟩
    split
    · rename_i request h
      exact absurd (congrArg Prod.snd h) (refused request)
    · rfl

end Pacer

end DocSieve
