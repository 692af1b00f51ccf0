import DocSieve.Proofs.Chain.Energy
import DocSieve.Proofs.Chain.Sound

/-!
# A chain comes to rest

Moves lower the energy, and of the requests from outside only one raises it: an item
that is accepted, by three for every stage. So all moves of a run together, in whatever
order and however requests come between them, are bounded by the items: no worker goes
round in circles, not on items that fail, not before a full or a closed outlet, not
behind a closed inlet. From any state on the way settling makes moves until none can be
made.

Key definitions: `History.moved`.
Key theorems: `Chain.energy_le_of_advance?`, `Chain.moved_of_replay`,
`Chain.settling_ends`.
-/

namespace DocSieve

open History

variable {σ α : Type}

/-- The chain did something by itself. -/
def Occurrence.isMove : Occurrence α → Bool
  | .asked _ _ => false
  | .worked _ _ _ | .ended _ => true

/-- The number of moves. -/
def History.moved (h : History α) : Nat := h.countP (·.isMove)

theorem History.moved_append (a b : History α) : moved (a ++ b) = moved a + moved b :=
  List.countP_append

namespace Chain

variable {c next first last : Chain σ α} {h t : History α} {o : Occurrence α}
  {steps : List (Step α)}

theorem energy_setChannel {i : Nat} {channel : Channel α} (place : c.channels[i]? = some channel)
    (new : Channel α) :
    (c.setChannel i new).energy + 3 * (c.crews.length - i) * channel.items.length =
      c.energy + 3 * (c.crews.length - i) * new.items.length := by
  have hchannels := total_zipIdx_set place new
    fun p => 3 * (c.crews.length - p.2) * p.1.items.length
  dsimp only at hchannels
  rw [energy_eq, energy_eq]
  unfold setChannel
  dsimp only
  omega

theorem energy_setChannel_le {i : Nat} {channel : Channel α}
    (place : c.channels[i]? = some channel) {new : Channel α}
    (fewer : new.items.length ≤ channel.items.length) :
    (c.setChannel i new).energy ≤ c.energy := by
  have change := energy_setChannel place new
  have weight := Nat.mul_le_mul_left (3 * (c.crews.length - i)) fewer
  omega

/-- **Only an accepted item raises the energy**, by three for every stage. -/
theorem Advance.energy_le {action : Action α} {answer : Answer α}
    (step : c.Advance (.asked action answer) next) :
    next.energy ≤ c.energy +
      3 * c.crews.length * (History.sent [.asked action answer]).length := by
  cases step with
  | @sent inlet item place sender receiver room =>
    have change := energy_setChannel place (inlet.push item)
    have grown : (inlet.push item).items.length = inlet.items.length + 1 := List.length_append
    have one : (History.sent [.asked (.send item) .sent]).length = 1 := rfl
    rw [grown, Nat.mul_add, Nat.sub_zero] at change
    rw [one]
    omega
  | received place receiver items =>
    exact (energy_setChannel_le place (by simp [items])).trans (Nat.le_add_right _ _)
  | @closed inlet place =>
    have same : inlet.dropSender.items.length ≤ inlet.items.length := le_rfl
    exact (energy_setChannel_le place same).trans (Nat.le_add_right _ _)
  | @dropped outlet place =>
    exact (energy_setChannel_le place outlet.length_dropReceiver_le).trans (Nat.le_add_right _ _)
  | cancelled | unchanged => exact Nat.le_add_right _ _

/-- What a step does to the energy: a move lowers it, an accepted item pays for the
moves to come. -/
theorem energy_le_of_advance? {step : Step α} (hstep : c.advance? step = some (next, o)) :
    moved [o] + next.energy ≤ c.energy + 3 * c.crews.length * (sent [o]).length := by
  cases step with
  | ask action =>
    obtain ⟨rfl, rfl⟩ : (c.act action).1 = next ∧ .asked action (c.act action).2 = o := by
      simpa [advance?] using hstep
    have none : moved [.asked action (c.act action).2] = 0 := rfl
    rw [none, Nat.zero_add]
    exact (c.advance_of_act action).energy_le
  | move m =>
    have lower := energy_lt (advance?_move hstep)
    have one : moved [o] ≤ 1 := List.countP_le_length
    omega

/-- The moves of a run are paid for by the energy before it and the items accepted on
the way. -/
theorem moved_of_replay (run : replay steps c = some (last, h)) :
    moved h + last.energy ≤ c.energy + 3 * c.crews.length * (sent h).length := by
  have paid := replay_invariant
    (P := fun h d => d.crews.length = c.crews.length ∧
      moved h + d.energy ≤ c.energy + 3 * c.crews.length * (sent h).length) (h := []) ?_
    ⟨rfl, Nat.le_of_eq (Nat.zero_add _)⟩ run
  · exact paid.2
  · rintro h d step next o ⟨length, paid⟩ hstep
    have same := congrArg List.length (advance_of_advance? hstep).stages
    rw [List.length_map, List.length_map] at same
    have change := energy_le_of_advance? hstep
    rw [length] at change
    refine ⟨same.trans length, ?_⟩
    rw [moved_append, sent_append, List.length_append, Nat.mul_add]
    omega

/-- At the start there is nothing to do but for the workers to leave and for the stages
to end. -/
theorem energy_start {slots : Nat} {stages : List (Stage σ α)} {shared : σ}
    (begun : start slots stages shared = .ok first) :
    first.energy = total (stages.map fun stage => stage.workers + 1) := by
  rw [start_eq begun]
  have channels (stages : List (Stage σ α)) (slots senders weight i : Nat) :
      total (((wire slots senders stages).zipIdx i).map
        fun p => 3 * (weight - p.2) * p.1.items.length) = 0 := by
    induction stages generalizing slots senders i with
    | nil => rfl
    | cons stage stages ih => exact (Nat.zero_add _).trans (ih _ _ _)
  have idle (ahead n : Nat) :
      total ((List.replicate n (Worker.idle : Worker α)).map (workerEnergy ahead)) = n := by
    induction n with
    | zero => rfl
    | succ n ih =>
      rw [List.replicate_succ, List.map_cons, total, List.foldr_cons, ← total, ih]
      exact Nat.add_comm 1 n
  have crews (weight i : Nat) :
      total (((stages.map Crew.start).zipIdx i).map fun p => crewEnergy (weight - p.2) p.1) =
        total (stages.map fun stage => stage.workers + 1) := by
    clear begun
    induction stages generalizing i with
    | nil => rfl
    | cons stage stages ih =>
      simp only [List.map_cons, List.zipIdx_cons, total, List.foldr_cons] at ih ⊢
      rw [ih, crewEnergy, Crew.start, idle]
      rfl
  rw [energy_eq, channels, crews, Nat.zero_add]

/-- **Settling always ends.** In every state that a run comes to, cancelled or not, its
results received or not, the moves that were made so far and all that can still be made
without a request are bounded by the workers, the stages and the items accepted. So there
is no endless sequence of moves, and wherever moves have led, settling makes more of them
until none can be made. -/
theorem settling_ends {slots : Nat} {stages : List (Stage σ α)} {shared : σ}
    (begun : start slots stages shared = .ok first) (run : replay steps first = some (c, h)) :
    (∀ (moves : List Move) (d : Chain σ α) (t : History α),
      replay (moves.map .move) c = some (d, t) →
        moved h + moves.length ≤ total (stages.map fun stage => stage.workers + 1)
          + 3 * stages.length * (sent h).length ∧
        ∀ waiting, (d.settleAfter waiting).Settled ∧
          ∃ (more : List Move) (t' : History α),
            replay (more.map .move) d = some (d.settleAfter waiting, t')) ∧
    ¬ ∃ states : Nat → Chain σ α, states 0 = c ∧
      ∀ n, ∃ m, (states n).step? m = some (states (n + 1)) := by
  constructor
  · intro moves d t hmoves
    have paid := moved_of_replay run
    have stages_length := length_of_replay begun (rfl : replay [] first = some (first, []))
    have bound := (comes_iff.mpr ⟨moves, t, rfl, hmoves⟩).le_energy
    rw [energy_start begun, stages_length] at paid
    refine ⟨by omega, fun waiting => ⟨settled_settleAfter d waiting, ?_⟩⟩
    obtain ⟨n, comes⟩ := comes_settleAfter d waiting
    obtain ⟨more, t', -, hmore⟩ := comes_iff.mp comes
    exact ⟨more, t', hmore⟩
  · rintro ⟨states, rfl, step⟩
    have lower (n : Nat) : (states n).energy + n ≤ (states 0).energy := by
      induction n with
      | zero => exact le_rfl
      | succ n ih =>
        obtain ⟨m, hstep⟩ := step n
        have := energy_lt hstep
        omega
    have := lower ((states 0).energy + 1)
    omega

/-- An item to halve and one to fail on are there when the results are given up, and a
worker has one of them in its hand. -/
def abandonedSteps : List (Step Nat) :=
  [.ask (.send 4), .ask (.send 3), .move (.poll 0 0), .ask .drop]

theorem settling_ends_halving :
    ∃ first c h d t, start 2 [halving "half" 1 1, halving "quarter" 1 1] () = .ok first ∧
      replay abandonedSteps first = some (c, h) ∧
      replay [.move (.poll 0 0)] c = some (d, t) ∧ moved h + 1 ≤ (2 + 2) + 3 * 2 * 2 ∧
      (d.settleAfter [.poll 0 0]).Settled ∧ ∃ (more : List Move) (t' : History Nat),
        replay (more.map .move) d = some (d.settleAfter [.poll 0 0], t') := by
  obtain ⟨hmoves, -⟩ := settling_ends
    (rfl : start 2 [halving "half" 1 1, halving "quarter" 1 1] () = .ok _)
    (rfl : replay abandonedSteps _ = some (_, _))
  obtain ⟨bound, settles⟩ := hmoves [.poll 0 0] _ _ rfl
  exact ⟨_, _, _, _, _, rfl, rfl, rfl, bound, settles [.poll 0 0]⟩

end Chain

end DocSieve
