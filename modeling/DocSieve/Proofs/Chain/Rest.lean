import DocSieve.Proofs.Chain.Calm
import DocSieve.Proofs.Chain.Settled

/-!
# No item is stuck

Settle a chain that is not cancelled and whose results are received. Wherever
something still rests, there is a reason further on: a worker keeps a value only
because the outlet of its stage is full, and an item waits at a stage only because
in addition every worker of the stage keeps a value. A stage has ended just when
nothing can come in any more, nothing waits and nobody keeps a value.

An outlet is the inlet of the next stage, so these reasons lead on to the last
channel. If that one is empty, every channel is, and once the first channel is
closed, the stages have ended one after the other.

Key definitions: `Scene.Fits`, `Spot.AtRest`.
Key theorems: `Chain.fits_of_replay`, `Chain.Settled.atRest`, `Chain.nothing_stuck`.
-/

namespace DocSieve

open History

variable {σ α : Type}

/-! ### No outlet holds more than its slots -/

namespace Scene

variable {x x' : Scene σ α}

/-- The outlet has the slots of the stage, and no more values than slots. -/
structure Fits (x : Scene σ α) : Prop where
  capacity : x.outlet.capacity = x.crew.stage.slots
  length : x.outlet.items.length ≤ x.crew.stage.slots

theorem Next.fits (n : x.Next x') (h : x.Fits) : x'.Fits := by
  have hlength := h.length
  cases n with
  | @put w value holding going room =>
    have hroom : x.outlet.items.length < x.outlet.capacity := by
      simpa [Channel.hasRoom] using room
    rw [h.capacity] at hroom
    refine ⟨h.capacity, ?_⟩
    show (x.outlet.items ++ [value]).length ≤ x.crew.stage.slots
    rw [List.length_append, List.length_singleton]
    omega
  | @fetch value rest items =>
    rw [items, List.length_cons] at hlength
    exact ⟨h.capacity, Nat.le_of_succ_le hlength⟩
  | drop => exact ⟨h.capacity, x.outlet.length_dropReceiver_le.trans hlength⟩
  | _ => exact ⟨h.capacity, hlength⟩

theorem Fits.full (h : x.Fits) (no_room : x.outlet.hasRoom = false) :
    x.outlet.items.length = x.crew.stage.slots := by
  have hge : x.outlet.capacity ≤ x.outlet.items.length := by
    simpa [Channel.hasRoom] using no_room
  rw [h.capacity] at hge
  exact Nat.le_antisymm h.length hge

end Scene

/-! ### One stage -/

/-- How a stage rests when nothing moves. -/
structure Spot.AtRest (s : Spot σ α) : Prop where
  /-- No transform is running. -/
  free : ∀ item, .busy item ∉ s.crew.workers
  /-- A worker keeps a value only because the outlet is full. -/
  holding : ∀ value, .holding value ∈ s.crew.workers →
    s.outlet.items.length = s.crew.stage.slots
  /-- An item waits only because the outlet is full and every worker keeps a
  value. -/
  waiting : s.inlet.items ≠ [] → s.outlet.items.length = s.crew.stage.slots ∧
    ∀ worker ∈ s.crew.workers, ∃ value, worker = .holding value
  /-- The stage has ended just when nothing can come in, nothing waits and nobody
  keeps a value. -/
  ended : s.crew.summary.isSome = true ↔ s.inlet.hasSender = false ∧ s.inlet.items = [] ∧
    ∀ value, .holding value ∉ s.crew.workers

namespace Spot.AtRest

variable {s : Spot σ α}

theorem ne_nil_of_full (full : s.outlet.items.length = s.crew.stage.slots) :
    s.outlet.items ≠ [] := by
  intro empty
  have hpos := s.crew.stage.slots_pos
  rw [empty, List.length_nil] at full
  omega

/-- Nobody keeps a value before an empty outlet. -/
theorem not_holding (h : s.AtRest) (empty : s.outlet.items = []) (value : α) :
    .holding value ∉ s.crew.workers :=
  fun hmem => ne_nil_of_full (h.holding value hmem) empty

theorem inlet_eq_nil (h : s.AtRest) (empty : s.outlet.items = []) : s.inlet.items = [] := by
  by_contra some
  exact ne_nil_of_full (h.waiting some).1 empty

end Spot.AtRest

namespace Chain

variable {c first : Chain σ α} {h : History α} {slots : Nat} {stages : List (Stage σ α)}
  {shared : σ} {steps : List (Step α)}

theorem fits_start {i : Nat} {s : Spot σ α} (begun : start slots stages shared = .ok c)
    (hs : c.spot? i = some s) : (c.scene [] i s).Fits := by
  obtain ⟨stage, before, senders, receivers, -, -, -, hscene⟩ := scene_start begun hs
  rw [hscene]
  exact ⟨rfl, Nat.zero_le _⟩

/-- **No outlet ever holds more than its slots.** -/
theorem fits_of_replay {i : Nat} {s : Spot σ α} (begun : start slots stages shared = .ok first)
    (run : replay steps first = some (c, h)) (hs : c.spot? i = some s) : (c.scene h i s).Fits := by
  have hfits := scene_invariant (P := Scene.Fits) (fun _ _ _ hP n => n.fits hP)
    (sound_start begun) (fun _ hs => fits_start begun hs) run hs
  simpa using hfits

/-- A worker of a settled chain that is undisturbed waits for an item, or for room,
or has left. -/
theorem Settled.worker_cases (settled : c.Settled) (hc : c.Sound h) (undisturbed : c.Undisturbed)
    (calm : c.Calm h) {i : Nat} {s : Spot σ α}
    (hs : c.spot? i = some s) {worker : Worker α} (hmem : worker ∈ s.crew.workers) :
    worker = .idle ∧ s.inlet.items = [] ∧ s.inlet.hasSender = true ∨
      (∃ value, worker = .holding value) ∧ s.outlet.hasRoom = false ∨ worker = .gone := by
  by_cases stop : s.stopped c.cancelled = true
  · -- nobody is made to leave, so the stage is stopped because all have left
    have gone := hc.unforced undisturbed calm hs stop
    exact .inr (.inr (Crew.allGone_iff.mp gone worker hmem))
  · obtain ⟨w, here⟩ := List.mem_iff_getElem?.mp hmem
    exact Spot.still_cases (settled.deed?_eq_none hs w) ((Bool.not_eq_true _).mp stop) here

/-- **Each stage of a settled chain that is undisturbed is at rest.** -/
theorem Settled.atRest (settled : c.Settled) (hc : c.Sound h) (undisturbed : c.Undisturbed)
    (calm : c.Calm h) {i : Nat} {s : Spot σ α}
    (hs : c.spot? i = some s) (fits : (c.scene h i s).Fits) : s.AtRest := by
  have hx := hc.stage hs
  have hcases {worker : Worker α} (hmem : worker ∈ s.crew.workers) :=
    settled.worker_cases hc undisturbed calm hs hmem
  have left (gone : .gone ∈ s.crew.workers) : s.inlet.items = [] ∧ s.inlet.hasSender = false :=
    ((calm hs).left gone).1
  have holding : ∀ value, .holding value ∈ s.crew.workers →
      s.outlet.items.length = s.crew.stage.slots := by
    intro value hmem
    rcases hcases hmem with ⟨hidle, -⟩ | ⟨-, no_room⟩ | hgone
    · cases hidle
    · exact fits.full no_room
    · cases hgone
  refine ⟨?_, holding, ?_, ?_⟩
  · intro item hmem
    rcases hcases hmem with ⟨hidle, -⟩ | ⟨⟨value, hholding⟩, -⟩ | hgone
    · cases hidle
    · cases hholding
    · cases hgone
  · intro some
    have all : ∀ worker ∈ s.crew.workers, ∃ value, worker = .holding value := by
      intro worker hmem
      rcases hcases hmem with ⟨-, none, -⟩ | ⟨hholding, -⟩ | rfl
      · exact absurd none some
      · exact hholding
      · exact absurd (left hmem).1 some
    have hpos : 0 < s.crew.workers.length := by
      rw [show s.crew.workers.length = _ from hx.staffed]
      exact s.crew.stage.workers_pos
    obtain ⟨value, hvalue⟩ := all _ (List.getElem_mem hpos)
    exact ⟨holding value (hvalue ▸ List.getElem_mem hpos), all⟩
  · constructor
    · intro summed
      have gone : s.crew.allGone = true := hx.ended (Option.isSome_iff_ne_none.mp summed)
      obtain ⟨none, closed⟩ := left (hx.exists_gone gone)
      refine ⟨closed, none, fun value hmem => ?_⟩
      cases Crew.allGone_iff.mp gone _ hmem
    · rintro ⟨closed, -, nobody⟩
      refine settled.ended_of_allGone hs (Crew.allGone_iff.mpr fun worker hmem => ?_)
      rcases hcases hmem with ⟨-, -, sender⟩ | ⟨⟨value, rfl⟩, -⟩ | hgone
      · rw [closed] at sender
        cases sender
      · exact absurd hmem (nobody value)
      · exact hgone

theorem rest_of_replay {i : Nat} {s : Spot σ α} (begun : start slots stages shared = .ok first)
    (run : replay steps first = some (c, h)) (settled : c.Settled) (undisturbed : c.Undisturbed)
    (hs : c.spot? i = some s) : s.AtRest :=
  settled.atRest (sound_of_replay begun run) undisturbed
    (calm_of_replay begun run undisturbed) hs (fits_of_replay begun run hs)

/-! ### The whole chain -/

/-- If the last channel of a chain at rest is empty, every stage is before an empty
outlet. -/
theorem Formed.outlet_eq_nil (formed : c.Formed) (rest : ∀ i s, c.spot? i = some s → s.AtRest)
    (empty : ∀ s, c.spot? (c.crews.length - 1) = some s → s.outlet.items = []) {i : Nat}
    {s : Spot σ α} (hs : c.spot? i = some s) : s.outlet.items = [] := by
  have hi := lt_of_spot? hs
  -- from the last stage back to the first
  induction hback : c.crews.length - 1 - i generalizing i s with
  | zero =>
    obtain rfl : i = c.crews.length - 1 := by omega
    exact empty s hs
  | succ back ih =>
    obtain ⟨s', hs', same⟩ := formed.spot_succ hs (by omega)
    rw [← same]
    exact (rest _ s' hs').inlet_eq_nil (ih hs' (lt_of_spot? hs') (by omega))

theorem Sound.ended_of_empty (hc : c.Sound h) (rest : ∀ i s, c.spot? i = some s → s.AtRest)
    (empty : ∀ i s, c.spot? i = some s → s.outlet.items = [])
    (closed : ∀ s, c.spot? 0 = some s → s.inlet.hasSender = false) {i : Nat} {s : Spot σ α}
    (hs : c.spot? i = some s) : s.crew.summary.isSome = true := by
  have ended {j : Nat} {s : Spot σ α} (hs : c.spot? j = some s)
      (closed : s.inlet.hasSender = false) : s.crew.summary.isSome = true :=
    (rest j s hs).ended.mpr ⟨closed, (rest j s hs).inlet_eq_nil (empty j s hs),
      (rest j s hs).not_holding (empty j s hs)⟩
  -- each stage ends because the one before it has ended
  induction i generalizing s with
  | zero => exact ended hs (closed s hs)
  | succ i ih =>
    obtain ⟨before, hbefore, same⟩ := hc.formed.spot_pred hs
    have hsender : before.outlet.hasSender = before.crew.summary.isNone := (hc.stage hbefore).sender
    refine ended hs ?_
    rw [same, hsender, ← Option.not_isSome, ih hbefore]
    rfl

/-- **Nothing is stuck.** When a chain that is not cancelled and whose results are
received is settled, each of its stages is at rest; and if the last channel is
empty and the first one closed, each of its stages has ended. -/
theorem nothing_stuck (begun : start slots stages shared = .ok first)
    (run : replay steps first = some (c, h)) (settled : c.Settled)
    (undisturbed : c.Undisturbed) :
    (∀ i stage, stages[i]? = some stage → ∃ s, c.spot? i = some s ∧ s.crew.stage = stage ∧
      s.AtRest) ∧
    (∀ inlet outlet, c.channels[0]? = some inlet → inlet.hasSender = false →
      c.channels[c.exit]? = some outlet → outlet.items = [] →
      ∀ i stage, stages[i]? = some stage → ∃ s, c.spot? i = some s ∧ s.crew.stage = stage ∧
        s.crew.summary.isSome = true) := by
  have hc := sound_of_replay begun run
  have rest : ∀ i s, c.spot? i = some s → s.AtRest :=
    fun _ _ hs => rest_of_replay begun run settled undisturbed hs
  constructor
  · intro i stage here
    obtain ⟨s, hs, hstage⟩ := exists_spot_of_replay begun run here
    exact ⟨s, hs, hstage, rest i s hs⟩
  · intro inlet outlet hfirst closed hlast empty i stage here
    obtain ⟨s, hs, hstage⟩ := exists_spot_of_replay begun run here
    have hpos : 0 < c.crews.length := Nat.zero_lt_of_lt (lt_of_spot? hs)
    refine ⟨s, hs, hstage, hc.ended_of_empty rest (fun i s hs =>
      hc.formed.outlet_eq_nil rest (fun s hs => ?_) hs) (fun s hs => ?_) hs⟩
    · have hplace := (spot?_eq_some.mp hs).2.2.1
      rw [Nat.sub_add_cancel hpos, ← hc.formed.exit_eq, hlast] at hplace
      obtain rfl := Option.some.inj hplace
      exact empty
    · have hplace := (spot?_eq_some.mp hs).1
      rw [hfirst] at hplace
      obtain rfl := Option.some.inj hplace
      exact closed

theorem nothing_stuck_halving :
    ∃ first c h s, start 2 [halving "half" 1 1, halving "quarter" 1 1] () = .ok first ∧
      replay ([.ask (.send 3), .move (.poll 0 0), .move (.poll 0 0)] ++ stallingSteps) first =
        some (c, h) ∧ c.Settled ∧ c.spot? 0 = some s ∧ s.AtRest ∧ s.inlet.items = [20] ∧
      s.crew.workers = [.holding 8] ∧ s.outlet.items = [6] := by
  obtain ⟨hrest, -⟩ :=
    nothing_stuck (rfl : start 2 [halving "half" 1 1, halving "quarter" 1 1] () = .ok _)
      (rfl : replay ([.ask (.send 3), .move (.poll 0 0), .move (.poll 0 0)] ++ stallingSteps) _ =
        some (_, _))
      (settled_iff.mpr rfl) (Formed.undisturbed (by unfold Formed; rfl) rfl rfl rfl)
  obtain ⟨s, hs, -, hs'⟩ := hrest 0 _ rfl
  obtain rfl := Option.some.inj hs
  exact ⟨_, _, _, _, rfl, rfl, settled_iff.mpr rfl, rfl, hs', rfl, rfl, rfl⟩

end Chain

end DocSieve
