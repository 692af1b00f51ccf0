import DocSieve.Proofs.Chain.Sound

/-!
# The shared state

The stages of a chain share a state, and only a transform changes it. If the
transforms of all stages but one leave it alone, it is at any time what that one
stage has made of it, and the values that this stage has made are those that its
transform gives one after the other: the run of the chain is, for that stage, a
sequential run over the items in the order in which their transforms ran. This
holds for any numbers of workers, for a transform is one step.

Key definitions: `Stage.LeavesAlone`, `Stage.after`, `Stage.values`.
Key theorem: `Chain.shared_of_replay`.
-/

namespace DocSieve

open History

variable {σ α : Type}

namespace Stage

variable (stage : Stage σ α) (shared : σ)

/-- The transform does not change the shared state. -/
def LeavesAlone : Prop := ∀ shared item, (stage.transform shared item).1 = shared

/-- The shared state after the transform ran on some items in turn. -/
def after (shared : σ) (items : List α) : σ :=
  items.foldl (fun shared item => (stage.transform shared item).1) shared

/-- The values that the transform makes of some items in turn. -/
def values : σ → List α → List α
  | _, [] => []
  | shared, item :: rest =>
    let (next, outcome) := stage.transform shared item
    outcome.value?.toList ++ values next rest

theorem after_concat (items : List α) (item : α) :
    stage.after shared (items ++ [item])
      = (stage.transform (stage.after shared items) item).1 := by
  unfold after
  rw [List.foldl_append, List.foldl_cons, List.foldl_nil]

theorem values_concat (items : List α) (item : α) :
    stage.values shared (items ++ [item]) = stage.values shared items
      ++ (stage.transform (stage.after shared items) item).2.value?.toList := by
  induction items generalizing shared with
  | nil => simp [values, after]
  | cons first rest ih =>
    simp only [List.cons_append, values, ih, List.append_assoc]
    rfl

end Stage

namespace Spot

variable {s : Spot σ α} {cancelled : Bool} {w : Nat} {deed : Deed α}

/-- Only a transform changes the shared state, and the feat tells what it made. -/
theorem shared_perform (does : s.Does cancelled w deed) :
    (∃ item, (s.feat deed).ran? = some item ∧
      (s.feat deed).made? = (s.crew.stage.transform s.shared item).2.value? ∧
      (s.perform w deed).shared = (s.crew.stage.transform s.shared item).1) ∨
    ((s.feat deed).ran? = none ∧ (s.feat deed).made? = none ∧
      (s.perform w deed).shared = s.shared) := by
  cases does with
  | @transform item _ =>
    refine .inl ⟨item, ?_⟩
    cases outcome : (s.crew.stage.transform s.shared item).2 <;>
      simp [feat, perform, transform, outcome, Outcome.value?, Feat.ran?, Feat.made?]
  | _ => exact .inr ⟨rfl, rfl, rfl⟩

end Spot

namespace Chain

variable {c next first : Chain σ α} {o : Occurrence α} {h : History α} {slots k : Nat}
  {stages : List (Stage σ α)} {stage : Stage σ α} {shared : σ} {steps : List (Step α)}

/-- A step changes the shared state only where a worker of the stage that may does so. -/
theorem Advance.sharing (step : c.Advance o next) (here : (c.crews.map (·.stage))[k]? = some stage)
    (alone : ∀ i other, i ≠ k → (c.crews.map (·.stage))[i]? = some other → other.LeavesAlone) :
    (∃ item, Log.ran (log k [o]) = [item] ∧
      Log.made (log k [o]) = (stage.transform c.shared item).2.value?.toList ∧
      next.shared = (stage.transform c.shared item).1) ∨
    (Log.ran (log k [o]) = [] ∧ Log.made (log k [o]) = [] ∧ next.shared = c.shared) := by
  cases step with
  | @worked i w s deed spot does =>
    obtain ⟨-, crew, -, shared, -⟩ := spot?_eq_some.mp spot
    have stageAt : (c.crews.map (·.stage))[i]? = some s.crew.stage := by simp [crew]
    rw [log_worked]
    by_cases hik : i = k
    · subst hik
      obtain rfl := Option.some.inj (here.symm.trans stageAt)
      rw [if_pos rfl, shared]
      rcases s.shared_perform does with ⟨item, ran, made, after⟩ | ⟨ran, made, after⟩
      · refine .inl ⟨item, ?_, ?_, after⟩
        · simp [Log.ran, ran]
        · rw [← made]
          cases h : (s.feat deed).made? <;> simp [Log.made, h]
      · exact .inr ⟨by simp [Log.ran, ran], by simp [Log.made, made], after⟩
    · rw [if_neg hik]
      refine .inr ⟨rfl, rfl, ?_⟩
      rcases s.shared_perform does with ⟨item, -, -, after⟩ | ⟨-, -, after⟩
      · rw [alone i _ hik stageAt] at after
        exact after.trans shared.symm
      · exact after.trans shared.symm
  | @ended i s spot can =>
    exact .inr ⟨rfl, rfl, (spot?_eq_some.mp spot).2.2.2.1.symm⟩
  | _ => exact .inr ⟨rfl, rfl, rfl⟩

/-- **The shared state is what one stage makes of it.** If all other stages leave it
alone, then after any run it is the state after the items on which that stage's
transform ran, and the stage has made the values that the transform gives in turn. -/
theorem shared_of_replay (begun : start slots stages shared = .ok first)
    (run : replay steps first = some (c, h)) (here : stages[k]? = some stage)
    (alone : ∀ i other, i ≠ k → stages[i]? = some other → other.LeavesAlone) :
    c.shared = stage.after shared (Log.ran (log k h)) ∧
      Log.made (log k h) = stage.values shared (Log.ran (log k h)) := by
  have hrun := replay_invariant (h := [])
    (P := fun h c => c.crews.map (·.stage) = stages ∧
      c.shared = stage.after shared (Log.ran (log k h)) ∧
      Log.made (log k h) = stage.values shared (Log.ran (log k h))) ?_ ?_ run
  · exact hrun.2
  · rintro h c step next o ⟨hstages, hshared, hmade⟩ hstep
    have hadvance := advance_of_advance? hstep
    refine ⟨hadvance.stages.trans hstages, ?_⟩
    rw [log_append, Log.ran_append, Log.made_append, hmade]
    rcases hadvance.sharing (hstages ▸ here) (hstages ▸ alone) with
      ⟨item, ran, made, after⟩ | ⟨ran, made, after⟩
    · rw [ran, made, after, stage.after_concat, stage.values_concat, ← hshared]
      exact ⟨rfl, rfl⟩
    · rw [ran, made, after, List.append_nil, List.append_nil]
      exact ⟨hshared, rfl⟩
  · refine ⟨?_, ?_, rfl⟩ <;> rw [start_eq begun]
    · simp [Crew.start, Function.comp_def]
    · rfl

end Chain

end DocSieve
