import DocSieve.Chain.Turns
import DocSieve.Proofs.Chain.Settled

/-!
# Every move lowers the energy

What a chain can still do by itself is bounded: an item has as many stages to go as are
behind it, and at each it is taken, transformed and put out. Every move lowers this
bound (`energy_lt`), so whatever the order of the moves is, they come to an end. In
particular settling ends where no move can be made (`settled_settleAfter`).

Key definitions: `Spot.energy`, `Chain.Comes`.
Key theorems: `Spot.energy_perform`, `Chain.energy_lt`, `Chain.Comes.le_energy`,
`Chain.settled_settleAfter`, `Chain.comes_settleAfter`.
-/

namespace DocSieve

variable {σ α : Type}

namespace Chain

theorem total_set {l : List Nat} {i old : Nat} (here : l[i]? = some old) (new : Nat) :
    total (l.set i new) + old = total l + new := by
  induction l generalizing i with
  | nil => simp at here
  | cons head rest ih =>
    cases i with
    | zero =>
      obtain rfl : head = old := by simpa using here
      simp only [List.set_cons_zero, total, List.foldr_cons]
      omega
    | succ i =>
      have := ih (by simpa using here)
      simp only [List.set_cons_succ, total, List.foldr_cons] at this ⊢
      omega

theorem map_zipIdx_set {β : Type} (l : List β) (i : Nat) (new : β) (f : β × Nat → Nat) :
    (l.set i new).zipIdx.map f = (l.zipIdx.map f).set i (f (new, i)) := by
  refine List.ext_getElem? fun j => ?_
  rw [List.getElem?_map, List.getElem?_zipIdx, List.getElem?_set, List.getElem?_set]
  by_cases h : i = j
  · subst h
    by_cases hi : i < l.length <;> simp [hi]
  · simp [h]

theorem total_zipIdx_set {β : Type} {l : List β} {i : Nat} {old : β} (here : l[i]? = some old)
    (new : β) (f : β × Nat → Nat) :
    total ((l.set i new).zipIdx.map f) + f (old, i) = total (l.zipIdx.map f) + f (new, i) := by
  rw [map_zipIdx_set]
  exact total_set (by simp [here]) _

theorem crewEnergy_set {crew : Crew σ α} (crew' : Crew σ α) {w : Nat} {old new : Worker α}
    (here : crew.workers[w]? = some old) (workers : crew'.workers = crew.workers.set w new)
    (summary : crew'.summary = crew.summary) (ahead : Nat) :
    crewEnergy ahead crew' + workerEnergy ahead old =
      crewEnergy ahead crew + workerEnergy ahead new := by
  have hset := total_set (l := crew.workers.map (workerEnergy ahead)) (i := w)
    (by rw [List.getElem?_map, here, Option.map_some]) (workerEnergy ahead new)
  unfold crewEnergy
  rw [workers, summary, List.map_set]
  omega

end Chain

open Chain

/-- What can still be done where a stage with `ahead` stages to go, its own included,
looks. -/
def Spot.energy (ahead : Nat) (s : Spot σ α) : Nat :=
  3 * ahead * s.inlet.items.length + 3 * (ahead - 1) * s.outlet.items.length
    + crewEnergy ahead s.crew

theorem Spot.energy_lt_of_set {s : Spot σ α} (s' : Spot σ α) {w : Nat} {old : Worker α}
    (new : Worker α) (here : s.crew.workers[w]? = some old)
    (workers : s'.crew.workers = s.crew.workers.set w new)
    (summary : s'.crew.summary = s.crew.summary) {ahead : Nat}
    (less : 3 * ahead * s'.inlet.items.length + 3 * (ahead - 1) * s'.outlet.items.length
        + workerEnergy ahead new <
      3 * ahead * s.inlet.items.length + 3 * (ahead - 1) * s.outlet.items.length
        + workerEnergy ahead old) :
    s'.energy ahead < s.energy ahead := by
  have crew := crewEnergy_set s'.crew here workers summary ahead
  unfold energy
  omega

/-- Whatever a worker does lowers the energy of its stage. -/
theorem Spot.energy_perform {s : Spot σ α} {cancelled : Bool} {w : Nat} {deed : Deed α}
    (does : s.Does cancelled w deed) {ahead : Nat} (pos : 0 < ahead) :
    (s.perform w deed).energy ahead < s.energy ahead := by
  cases does with
  | @take item rest idle going items =>
    refine energy_lt_of_set (s.take w item) (.busy item) idle rfl rfl ?_
    simp only [take, items, List.tail_cons, List.length_cons, Nat.mul_succ, workerEnergy]
    omega
  | @transform item busy =>
    rcases s.transform_cases w item with ⟨value, -, -, hin, hout, hcrew, -⟩ |
      ⟨-, -, hin, hout, hcrew, -⟩
    · refine energy_lt_of_set (s.transform w item) (.holding value) busy (by rw [hcrew]; rfl)
        (by rw [hcrew]; rfl) ?_
      rw [hin, hout, workerEnergy, workerEnergy]
      omega
    · refine energy_lt_of_set (s.transform w item) .idle busy (by rw [hcrew]; rfl)
        (by rw [hcrew]; rfl) ?_
      rw [hin, hout, workerEnergy, workerEnergy]
      omega
  | @put value holding going room =>
    refine energy_lt_of_set (s.put w value) .idle holding rfl rfl ?_
    simp only [put, Channel.push, List.length_append, List.length_singleton, Nat.mul_succ,
      workerEnergy]
    omega
  | @leave worker here reason =>
    refine energy_lt_of_set (s.leave w) .gone here rfl rfl ?_
    have hinlet : (s.leave w).inlet.items.length ≤ s.inlet.items.length :=
      s.inlet.length_dropReceiver_le
    have hmul := Nat.mul_le_mul_left (3 * ahead) hinlet
    have houtlet : (s.leave w).outlet.items = s.outlet.items := rfl
    have hworker : 0 < workerEnergy ahead worker := by
      rcases reason with ⟨rfl, -⟩ | ⟨⟨value, rfl⟩, -⟩
      · exact Nat.one_pos
      · show 0 < 3 * ahead - 1
        omega
    rw [houtlet, workerEnergy]
    omega

theorem Spot.energy_finish {s : Spot σ α} (can : s.canFinish = true) (cancelled : Bool)
    (ahead : Nat) : (s.finish cancelled).energy ahead < s.energy ahead := by
  have going : s.crew.summary.isNone = true := by
    unfold canFinish at can
    exact (Bool.and_eq_true _ _ ▸ can).2
  unfold energy crewEnergy
  simp [finish, Channel.dropSender, going]

namespace Chain

variable {c next : Chain σ α}

theorem energy_eq (c : Chain σ α) : c.energy =
    total (c.channels.zipIdx.map fun p => 3 * (c.crews.length - p.2) * p.1.items.length)
      + total (c.crews.zipIdx.map fun p => crewEnergy (c.crews.length - p.2) p.1) := rfl

theorem energy_putSpot {i : Nat} {s : Spot σ α} (spot : c.spot? i = some s) (new : Spot σ α) :
    (c.putSpot i new).energy + s.energy (c.crews.length - i) =
      c.energy + new.energy (c.crews.length - i) := by
  obtain ⟨hin, hcrew, hout, -, -⟩ := spot?_eq_some.mp spot
  have hlength : (c.putSpot i new).crews.length = c.crews.length := by simp [putSpot]
  have hinlet := total_zipIdx_set hin new.inlet
    fun p => 3 * (c.crews.length - p.2) * p.1.items.length
  have houtlet := total_zipIdx_set (l := c.channels.set i new.inlet) (i := i + 1)
    (by rw [List.getElem?_set_ne (by omega)]; exact hout) new.outlet
    fun p => 3 * (c.crews.length - p.2) * p.1.items.length
  have hcrews := total_zipIdx_set hcrew new.crew
    fun p => crewEnergy (c.crews.length - p.2) p.1
  dsimp only at hinlet houtlet hcrews
  rw [energy_eq, energy_eq]
  unfold Spot.energy
  rw [hlength]
  unfold putSpot
  dsimp only
  rw [Nat.sub_sub]
  omega

/-- **Every move lowers the energy.** -/
theorem energy_lt {m : Move} (step : c.step? m = some next) : next.energy < c.energy := by
  cases m with
  | poll i w =>
    simp only [step?, Option.bind_eq_bind, Option.bind_eq_some_iff, Option.pure_def,
      Option.some.injEq] at step
    obtain ⟨s, spot, deed, does, rfl⟩ := step
    have ahead : 0 < c.crews.length - i := Nat.sub_pos_of_lt (lt_of_spot? spot)
    have lower := Spot.energy_perform (Spot.does_of_deed? does) ahead
    have change := energy_putSpot spot (s.perform w deed)
    omega
  | finish i =>
    simp only [step?, Option.bind_eq_bind, Option.bind_eq_some_iff,
      Option.ite_none_right_eq_some, Option.some.injEq] at step
    obtain ⟨s, spot, can, rfl⟩ := step
    have lower := Spot.energy_finish can c.cancelled (c.crews.length - i)
    have change := energy_putSpot spot (s.finish c.cancelled)
    omega

/-! ### Runs of moves -/

/-- A chain comes to another state by a number of moves, one after the other. -/
inductive Comes : Nat → Chain σ α → Chain σ α → Prop
  | refl (c : Chain σ α) : Comes 0 c c
  | move {n : Nat} {c next last : Chain σ α} {m : Move} (step : c.step? m = some next)
      (rest : Comes n next last) : Comes (n + 1) c last

theorem advance?_move {m : Move} {o : Occurrence α} (h : c.advance? (.move m) = some (next, o)) :
    c.step? m = some next := by
  simp only [advance?, Option.bind_eq_bind, Option.bind_eq_some_iff, Option.pure_def,
    Option.some.injEq, Prod.mk.injEq] at h
  obtain ⟨_, step, _, -, rfl, -⟩ := h
  exact step

theorem exists_advance?_move {m : Move} (step : c.step? m = some next) :
    ∃ o, c.advance? (.move m) = some (next, o) := by
  have shown : (c.occurrence? m).isSome = true := by
    cases m with
    | poll i w =>
      simp only [step?, Option.bind_eq_bind, Option.bind_eq_some_iff, Option.pure_def] at step
      obtain ⟨s, spot, deed, does, -⟩ := step
      simp [occurrence?, spot, does]
    | finish i => rfl
  obtain ⟨o, shown⟩ := Option.isSome_iff_exists.mp shown
  exact ⟨o, by simp [advance?, step, shown]⟩

/-- A chain comes to a state if and only if a run of moves alone leads there. -/
theorem comes_iff {n : Nat} {last : Chain σ α} : c.Comes n last ↔
    ∃ (moves : List Move) (t : History α), moves.length = n ∧
      replay (moves.map .move) c = some (last, t) := by
  constructor
  · intro comes
    induction comes with
    | refl c => exact ⟨[], [], rfl, rfl⟩
    | @move n c next last m step rest ih =>
      obtain ⟨moves, t, length, run⟩ := ih
      obtain ⟨o, hstep⟩ := exists_advance?_move step
      exact ⟨m :: moves, o :: t, by rw [List.length_cons, length], by simp [replay, hstep, run]⟩
  · rintro ⟨moves, t, rfl, run⟩
    induction moves generalizing c t with
    | nil =>
      obtain ⟨rfl, -⟩ : c = last ∧ [] = t := by simpa [replay] using run
      exact .refl c
    | cons m moves ih =>
      obtain ⟨next, o, t', hstep, hrest, -⟩ := replay_cons run
      exact .move (advance?_move hstep) (ih t' hrest)

/-- **No run of moves is longer than the energy allows.** -/
theorem Comes.le_energy {n : Nat} {last : Chain σ α} (comes : c.Comes n last) :
    n + last.energy ≤ c.energy := by
  induction comes with
  | refl c => omega
  | move step _ ih =>
    have := energy_lt step
    omega

/-! ### Settling -/

theorem step?_of_next? {waiting : List Move} {m : Move} (turn : c.next? waiting = some m) :
    (c.step? m).isSome = true := by
  rw [isSome_step?]
  unfold next? at turn
  rcases Option.or_eq_some_iff.mp turn with quick | ⟨-, turn⟩
  · have found := List.find?_some quick
    exact (Bool.and_eq_true _ _ ▸ found).2
  rcases Option.or_eq_some_iff.mp turn with waits | ⟨-, any⟩
  · exact List.find?_some waits
  · exact List.find?_some any

theorem settled_of_next? {waiting : List Move} (turn : c.next? waiting = none) : c.Settled := by
  rw [settled_iff, List.any_eq_false]
  unfold next? at turn
  rw [Option.or_eq_none_iff, Option.or_eq_none_iff] at turn
  exact List.find?_eq_none.mp turn.2.2

/-- With fuel enough, taking turns ends where no move can be made. -/
theorem settled_settleIn {fuel : Nat} {waiting : List Move} (enough : c.energy ≤ fuel) :
    (settleIn fuel c waiting).Settled := by
  induction fuel generalizing c waiting with
  | zero =>
    intro m
    cases step : c.step? m with
    | none => exact step
    | some next => exact absurd (energy_lt step) (by omega)
  | succ fuel ih =>
    unfold settleIn
    dsimp only
    cases turn : c.next? (c.queueUp waiting) with
    | none => exact settled_of_next? turn
    | some m =>
      obtain ⟨next, step⟩ := Option.isSome_iff_exists.mp (step?_of_next? turn)
      dsimp only
      rw [step]
      exact ih (by have := energy_lt step; omega)

/-- **Settling ends in a settled chain.** -/
theorem settled_settleAfter (c : Chain σ α) (waiting : List Move) :
    (c.settleAfter waiting).Settled := settled_settleIn le_rfl

theorem comes_settleIn (fuel : Nat) (c : Chain σ α) (waiting : List Move) :
    ∃ n, c.Comes n (settleIn fuel c waiting) := by
  induction fuel generalizing c waiting with
  | zero => exact ⟨0, .refl c⟩
  | succ fuel ih =>
    unfold settleIn
    dsimp only
    cases turn : c.next? (c.queueUp waiting) with
    | none => exact ⟨0, .refl c⟩
    | some m =>
      obtain ⟨next, step⟩ := Option.isSome_iff_exists.mp (step?_of_next? turn)
      obtain ⟨n, rest⟩ := ih next ((c.queueUp waiting).erase m)
      dsimp only
      rw [step]
      exact ⟨n + 1, .move step rest⟩

theorem comes_settleAfter (c : Chain σ α) (waiting : List Move) :
    ∃ n, c.Comes n (c.settleAfter waiting) := comes_settleIn _ c waiting

end Chain

end DocSieve
