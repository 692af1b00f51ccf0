import DocSieve.Proofs.Chain.Sound
import DocSieve.Proofs.Metrics.Board

/-!
# The board tells what the workers did

Stages are counted by their names. What the board says of a name is what the
workers of all stages of that name did: how many items they took, how many of
these failed, and how many values they put out. A stage whose name no other
stage has is counted alone.

Key definitions: `StageStats.Tells`, `History.named`.
Key theorems: `Chain.board_of_replay`, `Chain.stats_of_replay`.
-/

namespace DocSieve

open History

variable {σ α : Type}

/-- The counts of a stage are those of a log. -/
structure StageStats.Tells (stats : StageStats) (log : Log α) : Prop where
  processed : stats.processed = (Log.taken log).length
  errors : stats.errors = (Log.failed log).length
  delivered : stats.delivered = (Log.puts log).length

/-- What the workers of all stages called `name` did. -/
def History.named (names : List String) (name : String) (h : History α) : Log α :=
  h.filterMap (·.feat? fun i => names[i]? = some name)

theorem History.named_append (names : List String) (name : String) (a b : History α) :
    named names name (a ++ b) = named names name a ++ named names name b := List.filterMap_append

/-- A stage whose name no other stage has did what was done under its name. -/
theorem History.named_eq_log {names : List String} {name : String} {i : Nat}
    (here : names[i]? = some name) (alone : ∀ j, names[j]? = some name → j = i) (h : History α) :
    named names name h = log i h := by
  refine List.filterMap_congr fun o _ => ?_
  cases o with
  | worked j w f =>
    simp only [Occurrence.feat?]
    by_cases hj : j = i
    · rw [if_pos (hj ▸ here), if_pos hj]
    · rw [if_neg (fun e => hj (alone j e)), if_neg hj]
  | asked => rfl
  | ended => rfl

namespace StageStats

/-- The counts after a worker did something. -/
def count : Feat α → StageStats → StageStats
  | .took _ => (·.take)
  | .failed _ => (·.fail)
  | .put _ => (·.deliver 0.0)
  | .left | .made _ _ => id

theorem Tells.count {stats : StageStats} {log : Log α} (h : stats.Tells log) (w : Nat)
    (f : Feat α) : (stats.count f).Tells (log ++ [(w, f)]) := by
  constructor
  · rw [Log.taken_concat, List.length_append, ← h.processed]
    cases f <;> rfl
  · rw [Log.failed_concat, List.length_append, ← h.errors]
    cases f <;> rfl
  · rw [Log.puts_concat, List.length_append, ← h.delivered]
    cases f <;> rfl

theorem tells_nil : (zero.Tells ([] : Log α)) := ⟨rfl, rfl, rfl⟩

end StageStats

/-- What a worker does is written on the board under the name of its stage,
unless there is nothing to count. -/
theorem Spot.board_perform {s : Spot σ α} {cancelled : Bool} {w : Nat} {deed : Deed α}
    (does : s.Does cancelled w deed) :
    (s.perform w deed).board = s.board ∧ StageStats.count (s.feat deed) = id ∨
      (s.perform w deed).board = s.board.update s.name (StageStats.count (s.feat deed)) := by
  cases does with
  | take => exact .inr rfl
  | @transform item _ =>
    rcases s.transform_cases w item with ⟨value, -, h1, -, -, -, h⟩ | ⟨-, h1, -, -, -, h⟩
    · rw [h1]
      exact .inl ⟨h, rfl⟩
    · rw [h1]
      exact .inr h
  | put => exact .inr rfl
  | leave => exact .inl ⟨rfl, rfl⟩

namespace Chain

def names (c : Chain σ α) : List String := c.crews.map (·.stage.name)

/-- The board tells of every name what was done under it. -/
structure Told (c : Chain σ α) (h : History α) : Prop where
  ascending : c.board.Ascending
  tells : ∀ name, (c.board.stats name).Tells (named c.names name h)

variable {c next : Chain σ α} {h : History α}

theorem Advance.names {o : Occurrence α} (step : c.Advance o next) : next.names = c.names := by
  have := congrArg (List.map Stage.name) step.stages
  simpa [Chain.names, List.map_map, Function.comp_def] using this

theorem Told.skip {o : Occurrence α} (told : c.Told h) (board : next.board = c.board)
    (names : next.names = c.names) (quiet : ∀ name, named c.names name [o] = []) :
    next.Told (h ++ [o]) := by
  refine ⟨board ▸ told.ascending, fun name => ?_⟩
  rw [board, names, named_append, quiet, List.append_nil]
  exact told.tells name

theorem Told.worked {i w : Nat} {s : Spot σ α} {deed : Deed α} (told : c.Told h)
    (spot : c.spot? i = some s) (does : s.Does c.cancelled w deed) :
    (c.putSpot i (s.perform w deed)).Told (h ++ [.worked i w (s.feat deed)]) := by
  have step : c.Advance _ _ := .worked spot does
  obtain ⟨-, hcrew, -, -, hboard⟩ := spot?_eq_some.mp spot
  have hname : c.names[i]? = some s.name := by simp [Chain.names, hcrew, Spot.name]
  have hnamed : ∀ name, named c.names name [.worked i w (s.feat deed)] =
      if s.name = name then [(w, s.feat deed)] else [] := by
    intro name
    by_cases h : s.name = name <;> simp [named, Occurrence.feat?, hname, h]
  rcases Spot.board_perform does with ⟨hnext, hcount⟩ | hnext
  · refine ⟨?_, fun name => ?_⟩
    · rw [show (c.putSpot i _).board = _ from hnext, ← hboard]
      exact told.ascending
    · rw [show (c.putSpot i _).board = _ from hnext, ← hboard, step.names, named_append, hnamed]
      split
      · have := (told.tells name).count w (s.feat deed)
        rwa [hcount] at this
      · rw [List.append_nil]
        exact told.tells name
  · refine ⟨?_, fun name => ?_⟩
    · rw [show (c.putSpot i _).board = _ from hnext, ← hboard]
      exact told.ascending.update _ _
    · rw [show (c.putSpot i _).board = _ from hnext, ← hboard, Board.stats_update told.ascending,
        step.names, named_append, hnamed]
      by_cases hn : s.name = name
      · rw [if_pos hn.symm, if_pos hn]
        exact (told.tells name).count w (s.feat deed)
      · rw [if_neg (Ne.symm hn), if_neg hn, List.append_nil]
        exact told.tells name

theorem Told.advance {o : Occurrence α} (told : c.Told h) (step : c.Advance o next) :
    next.Told (h ++ [o]) := by
  have hnames := step.names
  cases step with
  | worked spot does => exact told.worked spot does
  | ended spot can =>
    obtain ⟨-, -, -, -, hboard⟩ := spot?_eq_some.mp spot
    exact told.skip hboard.symm hnames fun _ => rfl
  | _ => exact told.skip rfl hnames fun _ => rfl

/-- **The board tells what the workers did.** -/
theorem board_of_replay {slots : Nat} {stages : List (Stage σ α)} {shared : σ} {first : Chain σ α}
    {steps : List (Step α)} (begun : start slots stages shared = .ok first)
    (run : replay steps first = some (c, h)) : c.Told h := by
  have told : first.Told [] := by
    rw [start_eq begun]
    exact ⟨Board.ascending_nil, fun _ => StageStats.tells_nil⟩
  have := replay_invariant (P := fun h c => c.Told h)
    (fun _ _ _ _ _ hc hstep => hc.advance (advance_of_advance? hstep)) told run
  simpa using this

theorem names_of_replay {slots : Nat} {stages : List (Stage σ α)} {shared : σ}
    {first : Chain σ α} {steps : List (Step α)} (begun : start slots stages shared = .ok first)
    (run : replay steps first = some (c, h)) : c.names = stages.map (·.name) := by
  rw [← stages_of_replay begun run]
  simp [names]

/-- A stage whose name no other stage has is counted alone. -/
theorem stats_of_replay {slots i : Nat} {stages : List (Stage σ α)} {stage : Stage σ α}
    {shared : σ} {first : Chain σ α} {steps : List (Step α)}
    (begun : start slots stages shared = .ok first) (run : replay steps first = some (c, h))
    (here : stages[i]? = some stage)
    (alone : ∀ j other, stages[j]? = some other → other.name = stage.name → j = i) :
    (c.board.stats stage.name).Tells (log i h) := by
  have hnames := names_of_replay begun run
  have htells := (board_of_replay begun run).tells stage.name
  have hhere : (stages.map (·.name))[i]? = some stage.name := by simp [here]
  rwa [hnames, named_eq_log hhere ?_] at htells
  intro j hj
  rw [List.getElem?_map, Option.map_eq_some_iff] at hj
  obtain ⟨other, hother, hname⟩ := hj
  exact alone j other hother hname

theorem stats_of_distinct {slots i : Nat} {stages : List (Stage σ α)} {stage : Stage σ α}
    {shared : σ} {first : Chain σ α} {steps : List (Step α)}
    (begun : start slots stages shared = .ok first) (run : replay steps first = some (c, h))
    (distinct : (stages.map (·.name)).Nodup) (here : stages[i]? = some stage) :
    (c.board.stats stage.name).Tells (log i h) := by
  refine stats_of_replay begun run here fun j other hother hname => ?_
  have hi : i < (stages.map (·.name)).length := by
    rw [List.length_map]
    exact (List.getElem?_eq_some_iff.mp here).1
  exact ((List.getElem?_inj hi distinct).mp (by simp [here, hother, hname])).symm

end Chain

end DocSieve
