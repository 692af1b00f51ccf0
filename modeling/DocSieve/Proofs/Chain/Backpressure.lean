import DocSieve.Proofs.Chain.Composition
import DocSieve.Proofs.Chain.Conservation
import DocSieve.Proofs.Chain.Rest

/-!
# Backpressure is exact

Let no transform fail in an undisturbed chain. Of what a stage took, each item is in
the hand of one of its workers, its value is in the outlet, or was drawn from there
(`Chain.drawn_length`). So a stage is never ahead of the next one by more than it has
workers and slots, and never ahead of the receiver by more than there are from there
on, its `Stage.room`.

When the chain is settled it is ahead by as much as it can be. A stage before which
something waits has a full outlet and no free worker, and so have all stages behind
it, since something waits before them too. A stage before which nothing waits has
taken all that was sent, since nothing rests further up either.

Key definitions: `Stage.Passes`, `Stage.room`.
Key theorems: `Chain.failed_eq_nil`, `Chain.drawn_le_room`, `Chain.drawn_of_waiting`,
`Chain.drawn_of_empty`, `Chain.backpressure_exact`.
-/

namespace DocSieve

open History

variable {σ α : Type}

namespace Stage

/-- The item passes through the stages: each transform makes a value of it, whatever
the shared state is, and the value passes through the rest. -/
def Passes : List (Stage σ α) → α → Prop
  | [], _ => True
  | stage :: rest, item => ∀ outcome, stage.Yields item outcome →
      ∃ value, outcome = some value ∧ Passes rest value

/-- Where each value depends on its item alone, the items pass of which the composed
transforms make something. -/
theorem passes_of_composed {stages : List (Stage σ α)} {fs : List (α → Option α)}
    (computes : List.Forall₂ Stage.Computes stages fs) {item : α}
    (made : (composed fs item).isSome = true) : Passes stages item := by
  induction computes generalizing item with
  | nil => trivial
  | cons first _ ih =>
    intro outcome yields
    obtain ⟨value, hvalue⟩ := Option.isSome_iff_exists.mp made
    obtain ⟨next, hnext, hrest⟩ := Option.bind_eq_some_iff.mp hvalue
    exact ⟨next, (first.eq_of_yields yields).symm.trans hnext, ih (hrest ▸ rfl)⟩

/-- What some stages can hold, in their outlets and in the hands of their workers. -/
def room (stages : List (Stage σ α)) : Nat :=
  (stages.map fun stage => stage.slots + stage.workers).sum

theorem room_drop {stages : List (Stage σ α)} {stage : Stage σ α} {i : Nat}
    (here : stages[i]? = some stage) :
    room (stages.drop i) = stage.slots + stage.workers + room (stages.drop (i + 1)) := by
  obtain ⟨hi, rfl⟩ := List.getElem?_eq_some_iff.mp here
  rw [List.drop_eq_getElem_cons hi, room, List.map_cons, List.sum_cons]
  rfl

end Stage

/-! ### No transform fails -/

namespace Scene

variable {x : Scene σ α}

theorem Sound.mem_entered_of_delivered (h : x.Sound) {d : Piece α × α}
    (hd : d ∈ x.account.delivered) : d.1.1 ∈ x.entered := by
  refine List.fst_mem_of_mem_zipIdx (h.placed.mem_iff.mpr ?_)
  exact List.mem_append_right _ (List.mem_map_of_mem hd)

theorem Sound.mem_entered_of_failed (h : x.Sound) {p : Piece α} (hp : p ∈ x.account.failed) :
    p.1 ∈ x.entered := by
  refine List.fst_mem_of_mem_zipIdx (h.placed.mem_iff.mpr ?_)
  simp [places, hp]

end Scene

namespace Chain

variable {c first : Chain σ α} {h : History α} {slots i : Nat} {stages : List (Stage σ α)}
  {stage : Stage σ α} {shared : σ} {steps : List (Step α)} {s : Spot σ α}

section Run

variable (begun : start slots stages shared = .ok first) (run : replay steps first = some (c, h))

include begun run

/-- What came into channel `i` passes through the stages from there on. -/
theorem entered_passes (passes : ∀ item ∈ sent h, Stage.Passes stages item)
    (hi : i ≤ stages.length) : ∀ item ∈ entered i h, Stage.Passes (stages.drop i) item := by
  induction i with
  | zero => exact passes
  | succ i ih =>
    intro item hitem
    obtain ⟨s, hs, hstage⟩ := exists_spot_of_replay begun run (List.getElem?_eq_getElem hi)
    have hscene := (sound_of_replay begun run).stage hs
    have hputs : Log.puts (log i h) = (c.scene h i s).account.delivered.map (·.2) :=
      hscene.balanced.puts
    rw [entered, hputs] at hitem
    obtain ⟨d, hd, rfl⟩ := List.mem_map.mp hitem
    have hbefore := ih (by omega) d.1.1 (hscene.mem_entered_of_delivered hd)
    rw [List.drop_eq_getElem_cons hi, ← hstage] at hbefore
    obtain ⟨value, hvalue, hrest⟩ := hbefore _ (hscene.balanced.delivered d hd)
    obtain rfl := Option.some.inj hvalue
    exact hrest

theorem failed_eq_nil (passes : ∀ item ∈ sent h, Stage.Passes stages item)
    (hi : i < stages.length) : Log.failed (log i h) = [] := by
  obtain ⟨s, hs, hstage⟩ := exists_spot_of_replay begun run (List.getElem?_eq_getElem hi)
  have hscene := (sound_of_replay begun run).stage hs
  have hfailures : Log.failed (log i h) = (c.scene h i s).account.failed.map (·.1) :=
    hscene.balanced.failures
  rw [hfailures, List.map_eq_nil_iff, List.eq_nil_iff_forall_not_mem]
  intro p hp
  have hpasses := entered_passes begun run passes hi.le p.1 (hscene.mem_entered_of_failed hp)
  rw [List.drop_eq_getElem_cons hi, ← hstage] at hpasses
  obtain ⟨value, hvalue, -⟩ := hpasses none (hscene.balanced.failed p hp)
  cases hvalue

/-! ### Counting -/

variable (undisturbed : c.Undisturbed)
  (unfailing : ∀ i < stages.length, Log.failed (log i h) = [])

include undisturbed unfailing

/-- **Where the items are that a stage took:** in a hand, in the outlet, or drawn from
there. -/
theorem drawn_length (hs : c.spot? i = some s) : (drawn stages.length i h).length =
    s.crew.laden + s.outlet.items.length + (drawn stages.length (i + 1) h).length := by
  have hc := sound_of_replay begun run
  have calm := calm_of_replay begun run undisturbed
  have hlength := length_of_replay begun run
  have hi : i < stages.length := hlength ▸ lt_of_spot? hs
  have none_abandoned : (c.scene h i s).account.abandoned = [] := (calm hs).kept
  have hcount : (Log.taken (log i h)).length = s.crew.laden + (Log.failed (log i h)).length +
      (c.scene h i s).account.abandoned.length + (Log.puts (log i h)).length :=
    (hc.stage hs).balanced.taken_length
  rw [unfailing i hi, none_abandoned, hc.puts_whole undisturbed calm hs, hlength,
    List.length_append] at hcount
  rw [drawn_of_lt hi, hcount, List.length_nil, List.length_nil]
  omega

/-- **No stage takes more than was sent.** -/
theorem drawn_le_sent (hs : c.spot? i = some s) :
    (drawn stages.length i h).length ≤ (sent h).length := by
  have hc := sound_of_replay begun run
  induction i generalizing s with
  | zero =>
    have hi := lt_of_spot? hs
    rw [length_of_replay begun run] at hi
    rw [drawn_of_lt hi]
    exact (hc.stage hs).inlet.first.length_le
  | succ i ih =>
    obtain ⟨before, hbefore, -⟩ := hc.formed.spot_pred hs
    have hcount := drawn_length begun run undisturbed unfailing hbefore
    have hle := ih hbefore
    omega

/-- **No stage is ahead of the receiver by more than the room from there on.** -/
theorem drawn_le_room (hi : i ≤ stages.length) :
    (drawn stages.length i h).length ≤ (received h).length + Stage.room (stages.drop i) := by
  -- from the last channel back to the first
  induction hback : stages.length - i generalizing i with
  | zero =>
    obtain rfl : i = stages.length := by omega
    rw [drawn_self]
    exact Nat.le_add_right _ _
  | succ back ih =>
    have here : stages[i]? = some stages[i] := List.getElem?_eq_getElem (by omega)
    obtain ⟨s, hs, hstage⟩ := exists_spot_of_replay begun run here
    have hcount := drawn_length begun run undisturbed unfailing hs
    have hslots : s.outlet.items.length ≤ s.crew.stage.slots :=
      (fits_of_replay begun run hs).length
    have hworkers : s.crew.workers.length = s.crew.stage.workers :=
      ((sound_of_replay begun run).stage hs).staffed
    have hladen : s.crew.laden ≤ s.crew.workers.length := List.countP_le_length
    have hnext := ih (show i + 1 ≤ stages.length by omega) (by omega)
    rw [Stage.room_drop here, ← hstage]
    omega

/-! ### At rest -/

variable (settled : c.Settled)

include settled

/-- **A stage before which something waits is ahead by the room from there on.** -/
theorem drawn_of_waiting (hs : c.spot? i = some s) (waiting : s.inlet.items ≠ []) :
    (drawn stages.length i h).length = (received h).length + Stage.room (stages.drop i) := by
  have hc := sound_of_replay begun run
  have hlength := length_of_replay begun run
  have hi := lt_of_spot? hs
  -- from the last stage back to the first
  induction hback : stages.length - i generalizing i s with
  | zero => omega
  | succ back ih =>
    have here : stages[i]? = some stages[i] := List.getElem?_eq_getElem (by omega)
    obtain ⟨s₁, hs₁, hstage⟩ := exists_spot_of_replay begun run here
    obtain rfl := Option.some.inj (hs.symm.trans hs₁)
    obtain ⟨full, holding⟩ :=
      (rest_of_replay begun run settled undisturbed hs).waiting waiting
    have hcount := drawn_length begun run undisturbed unfailing hs
    have hworkers : s.crew.workers.length = s.crew.stage.workers := (hc.stage hs).staffed
    have hladen : s.crew.laden = s.crew.workers.length := Crew.laden_of_holding holding
    have hnext : (drawn stages.length (i + 1) h).length =
        (received h).length + Stage.room (stages.drop (i + 1)) := by
      by_cases last : i + 1 = stages.length
      · rw [last, drawn_self, List.drop_length]
        rfl
      · obtain ⟨s', hs', same⟩ := hc.formed.spot_succ hs (by omega)
        refine ih hs' ?_ (by omega) (by omega)
        rw [same]
        exact Spot.AtRest.ne_nil_of_full full
    rw [Stage.room_drop here, ← hstage]
    omega

/-- **A stage before which nothing waits has taken all that was sent.** -/
theorem drawn_of_empty (hs : c.spot? i = some s) (empty : s.inlet.items = []) :
    (drawn stages.length i h).length = (sent h).length := by
  have hc := sound_of_replay begun run
  have hlength := length_of_replay begun run
  have hi := lt_of_spot? hs
  induction i generalizing s with
  | zero =>
    have hwhole : sent h = Log.taken (log 0 h) ++ s.inlet.items :=
      (calm_of_replay begun run undisturbed hs).whole (hc.stage hs)
    rw [drawn_of_lt (by omega), hwhole, empty, List.append_nil]
  | succ i ih =>
    obtain ⟨before, hbefore, same⟩ := hc.formed.spot_pred hs
    rw [same] at empty
    have rest := rest_of_replay begun run settled undisturbed hbefore
    have hcount := drawn_length begun run undisturbed unfailing hbefore
    have hladen : before.crew.laden = 0 :=
      Crew.laden_eq_zero rest.free (rest.not_holding empty)
    have hbefore_taken := ih hbefore (rest.inlet_eq_nil empty) (by omega)
    rw [hladen, empty, List.length_nil] at hcount
    omega

end Run

/-- **Backpressure is exact.** Let no transform fail in an undisturbed chain whose
stages have different names. What a stage has processed are the calls of its
transform that have ended and those that run. There are never more of them than
items were sent, nor more than were received and fit into the workers and slots from
there on. When the chain is settled there are as many as that allows, and none
runs. -/
theorem backpressure_exact (begun : start slots stages shared = .ok first)
    (run : replay steps first = some (c, h)) (distinct : (stages.map (·.name)).Nodup)
    (undisturbed : c.Undisturbed) (unfailing : ∀ i < stages.length, Log.failed (log i h) = [])
    (here : stages[i]? = some stage) :
    ∃ s, c.spot? i = some s ∧ s.crew.stage = stage ∧
      (c.board.stats stage.name).processed =
        (Log.ran (log i h)).length + s.crew.running.length ∧
      (c.board.stats stage.name).processed ≤
        min (sent h).length ((received h).length + Stage.room (stages.drop i)) ∧
      (c.Settled → s.crew.running = [] ∧ (c.board.stats stage.name).processed =
        min (sent h).length ((received h).length + Stage.room (stages.drop i))) := by
  obtain ⟨s, hs, hstage⟩ := exists_spot_of_replay begun run here
  have hi := (List.getElem?_eq_some_iff.mp here).1
  have hprocessed := (stats_of_distinct begun run distinct here).processed
  have hdrawn := drawn_of_lt hi h
  have hran : (Log.taken (log i h)).length = (Log.ran (log i h)).length + s.crew.running.length :=
    ((sound_of_replay begun run).stage hs).balanced.ran_length
  have sent_bound := drawn_le_sent begun run undisturbed unfailing hs
  have room_bound := drawn_le_room begun run undisturbed unfailing hi.le
  rw [hprocessed, ← hdrawn]
  refine ⟨s, hs, hstage, hdrawn ▸ hran, le_min sent_bound room_bound, fun settled => ?_⟩
  have rest := rest_of_replay begun run settled undisturbed hs
  refine ⟨Crew.running_eq_nil rest.free, ?_⟩
  by_cases empty : s.inlet.items = []
  · rw [drawn_of_empty begun run undisturbed unfailing settled hs empty] at room_bound ⊢
    exact (min_eq_left room_bound).symm
  · rw [drawn_of_waiting begun run undisturbed unfailing settled hs empty] at sent_bound ⊢
    exact (min_eq_right sent_bound).symm

theorem backpressure_exact_halving :
    ∃ first c h, start 2 [halving "half" 1 1, halving "quarter" 1 1] () = .ok first ∧
      replay stallingSteps first = some (c, h) ∧ c.Settled ∧
      sent h = [4, 8, 12, 16, 20] ∧ received h = [] ∧
      (c.board.stats "half").processed = min 5 (0 + ((1 + 1) + (1 + 1))) := by
  obtain ⟨first, c, h, begun, run, settled, undisturbed, hsent, hreceived⟩ :
      ∃ first c h, start 2 [halving "half" 1 1, halving "quarter" 1 1] () = .ok first ∧
        replay stallingSteps first = some (c, h) ∧ c.Settled ∧ c.Undisturbed ∧
        sent h = [4, 8, 12, 16, 20] ∧ received h = [] :=
    ⟨_, _, _, rfl, rfl, settled_iff.mpr rfl,
      Formed.undisturbed (by unfold Formed; rfl) rfl rfl rfl, rfl, rfl⟩
  have passes : ∀ item ∈ sent h,
      Stage.Passes [halving "half" 1 1, halving "quarter" 1 1] item := by
    intro item hitem
    refine Stage.passes_of_composed
      (.cons (halving_computes _ _ _) (.cons (halving_computes _ _ _) .nil)) ?_
    rw [hsent] at hitem
    revert item
    decide
  obtain ⟨s, -, -, -, -, hsettled⟩ := backpressure_exact begun run (by decide) undisturbed
    (fun _ hi => failed_eq_nil begun run passes hi) (rfl : _[0]? = some _)
  have hprocessed := (hsettled settled).2
  rw [hsent, hreceived] at hprocessed
  exact ⟨first, c, h, begun, run, settled, hsent, hreceived, hprocessed⟩

end Chain

end DocSieve
