import DocSieve.Proofs.Chain.Order
import Mathlib.Data.List.Induction

/-!
# From what a stage takes to what it puts out

A value that a transform made is held by its worker until the worker puts it out; a
worker that leaves while it holds a value takes it along. So at any time the values
made are those put out, those held and those lost, and each worker holds or has
lost at most one. Nothing here depends on what the transforms make or read, so it
holds also of a stage whose transform looks at the shared state.

Of a stage that has dealt with all that came in, nothing is held or lost: its
transform ran on every item, and every value was put out.

Key definition: `Scene.Kept`.
Key theorems: `Scene.Next.kept`, `Chain.puts_subperm_made`, `Chain.made_length_le`,
`Chain.entered_subperm`, `Chain.ran_perm_entered`, `Chain.puts_perm_made`.
-/

namespace DocSieve

open History
open scoped List

variable {σ α : Type}

/-- The values that the workers are about to put out. -/
def Crew.held (crew : Crew σ α) : List α := crew.workers.filterMap (·.held?)

theorem Log.ran_length (log : Log α) :
    (Log.ran log).length = (Log.made log).length + (Log.failed log).length := by
  induction log using List.reverseRecOn with
  | nil => rfl
  | append_singleton log entry ih =>
    obtain ⟨w, f⟩ := entry
    have one : f.ran?.toList.length = f.made?.toList.length + f.failed?.toList.length := by
      cases f <;> rfl
    simp only [ran_concat, made_concat, failed_concat, List.length_append]
    omega

namespace Scene

variable {x x' : Scene σ α} {lost : List α}

/-- What was made was put out, is held, or is lost with a worker that left. -/
structure Kept (x : Scene σ α) (lost : List α) : Prop where
  made : (Log.made x.log : Multiset α) = Log.puts x.log + x.crew.held + lost
  left : lost.length ≤ x.crew.workers.countP (·.isGone)

namespace Kept

/-- One worker does something. What it held and makes, it puts out, goes on to hold or
takes along. -/
theorem next (h : x.Kept lost) (taken : List α) {w : Nat} {worker new : Worker α} {f : Feat α}
    (here : x.crew.workers[w]? = some worker)
    (workers : x'.crew.workers = x.crew.workers.set w new) (log : x'.log = x.log ++ [(w, f)])
    (made : worker.held?.toList ++ f.made?.toList = f.put?.toList ++ new.held?.toList ++ taken)
    (count : taken.length + (if worker.isGone then 1 else 0) ≤ if new.isGone then 1 else 0) :
    x'.Kept (lost ++ taken) := by
  have hset := filterMap_set_perm Worker.held? here new
  obtain ⟨hw, rfl⟩ := List.getElem?_eq_some_iff.mp here
  refine ⟨?_, ?_⟩
  · have hmade : ((x.crew.workers[w].held?.toList : Multiset α) + f.made?.toList)
        = f.put?.toList + new.held?.toList + taken := by
      simpa only [Multiset.coe_add] using congrArg (Multiset.ofList) made
    have held : (x'.crew.held : Multiset α) + x.crew.workers[w].held?.toList
        = x.crew.held + new.held?.toList := by
      unfold Crew.held
      rw [workers]
      exact hset
    refine add_right_cancel (b := (x.crew.workers[w].held?.toList : Multiset α)) ?_
    rw [log, Log.made_concat, Log.puts_concat, ← Multiset.coe_add, ← Multiset.coe_add,
      ← Multiset.coe_add, h.made]
    calc
      (Log.puts x.log : Multiset α) + x.crew.held + lost + f.made?.toList
          + x.crew.workers[w].held?.toList
      _ = Log.puts x.log + x.crew.held + lost
          + (x.crew.workers[w].held?.toList + f.made?.toList) := by abel
      _ = Log.puts x.log + f.put?.toList + (x.crew.held + new.held?.toList) + (lost + taken) := by
        rw [hmade]
        abel
      _ = Log.puts x.log + f.put?.toList + x'.crew.held + (lost + taken)
          + x.crew.workers[w].held?.toList := by
        rw [← held]
        abel
  · have counted : (if x.crew.workers[w].isGone then 1 else 0)
        ≤ x.crew.workers.countP (·.isGone) := by
      split
      · exact List.countP_pos_iff.mpr ⟨_, List.getElem_mem hw, ‹_›⟩
      · exact Nat.zero_le _
    have hleft := h.left
    rw [workers, List.countP_set hw, List.length_append]
    omega

end Kept

/-- **Values are kept**, whatever happens around the stage. -/
theorem Next.kept (n : x.Next x') (h : x.Kept lost) : ∃ lost', x'.Kept lost' := by
  cases n with
  | take idle => exact ⟨_, h.next [] idle rfl rfl rfl (by simp [Worker.isGone])⟩
  | make busy => exact ⟨_, h.next [] busy rfl rfl rfl (by simp [Worker.isGone])⟩
  | fail busy => exact ⟨_, h.next [] busy rfl rfl rfl (by simp [Worker.isGone])⟩
  | put holding => exact ⟨_, h.next [] holding rfl rfl rfl (by simp [Worker.isGone])⟩
  | @leave w worker here reason =>
    refine ⟨_, h.next worker.held?.toList here rfl rfl ?_ ?_⟩
    · rcases reason with ⟨rfl, -⟩ | ⟨⟨value, rfl⟩, -⟩ <;> rfl
    · rcases reason with ⟨rfl, -⟩ | ⟨⟨value, rfl⟩, -⟩ <;> simp [Worker.isGone, Worker.held?]
  | _ => exact ⟨lost, h.made, h.left⟩

end Scene

namespace Chain

variable {c first : Chain σ α} {h : History α} {slots i : Nat} {stages initial : List (Stage σ α)}
  {stage : Stage σ α} {fs : List (α → Option α)} {f : α → Option α} {shared : σ}
  {steps : List (Step α)}

/-! ### At any time -/

theorem kept_of_replay {s : Spot σ α} (begun : start slots stages shared = .ok first)
    (run : replay steps first = some (c, h)) (hs : c.spot? i = some s) :
    ∃ lost, (c.scene h i s).Kept lost := by
  refine scene_invariant (P := fun x => ∃ lost, x.Kept lost) (fun _ _ _ ⟨_, kept⟩ n => n.kept kept)
    (sound_start begun) (fun s hs => ⟨[], ?_⟩) run hs
  obtain ⟨stage, before, senders, receivers, -, -, -, hscene⟩ := scene_start begun hs
  rw [hscene]
  refine ⟨?_, Nat.zero_le _⟩
  simp [Crew.held, Crew.start, Worker.held?, Log.made, Log.puts,
    List.filterMap_replicate_of_none]

theorem puts_subperm_made (begun : start slots stages shared = .ok first)
    (run : replay steps first = some (c, h)) (here : stages[i]? = some stage) :
    entered (i + 1) h <+~ Log.made (log i h) := by
  obtain ⟨s, hs, -⟩ := exists_spot_of_replay begun run here
  obtain ⟨lost, kept⟩ := kept_of_replay begun run hs
  have made : (Log.made (log i h) : Multiset α) = entered (i + 1) h + s.crew.held + lost :=
    kept.made
  rw [← Multiset.coe_le, made, add_assoc]
  exact Multiset.le_add_right _ _

/-- All values made are put out but one for each worker. -/
theorem made_length_le (begun : start slots stages shared = .ok first)
    (run : replay steps first = some (c, h)) (here : stages[i]? = some stage) :
    (Log.made (log i h)).length ≤ (entered (i + 1) h).length + stage.workers := by
  obtain ⟨s, hs, rfl⟩ := exists_spot_of_replay begun run here
  obtain ⟨lost, kept⟩ := kept_of_replay begun run hs
  have made := congrArg Multiset.card kept.made
  simp only [Multiset.card_add, Multiset.coe_card] at made
  have staffed : s.crew.workers.length = s.crew.stage.workers :=
    ((sound_of_replay begun run).stage hs).staffed
  -- Who holds a value is not gone.
  have each : s.crew.held.length + s.crew.workers.countP (·.isGone) ≤ s.crew.workers.length := by
    unfold Crew.held
    rw [List.length_filterMap_eq_countP, List.length_eq_countP_add_countP (·.isGone)]
    have : ∀ worker ∈ s.crew.workers, worker.held?.isSome → ¬ worker.isGone := by
      intro worker _
      cases worker <;> simp [Worker.held?, Worker.isGone]
    have := List.countP_mono_left (l := s.crew.workers) (p := fun w => w.held?.isSome)
      (q := fun w => ¬ w.isGone) (by simpa using this)
    omega
  have left : lost.length ≤ s.crew.workers.countP (·.isGone) := kept.left
  change (Log.made (log i h)).length = (entered (i + 1) h).length + s.crew.held.length
    + lost.length at made
  omega

theorem ran_subperm_entered (begun : start slots stages shared = .ok first)
    (run : replay steps first = some (c, h)) (here : stages[i]? = some stage) :
    Log.ran (log i h) <+~ entered i h := by
  obtain ⟨s, hs, -⟩ := exists_spot_of_replay begun run here
  have sound := (sound_of_replay begun run).stage hs
  have taken : (Log.taken (log i h) : Multiset α) = Log.ran (log i h) + s.crew.running :=
    sound.balanced.ran
  have ran : Log.ran (log i h) <+~ Log.taken (log i h) := by
    rw [← Multiset.coe_le, taken]
    exact Multiset.le_add_right _ _
  exact ran.trans sound.inlet.first.sublist.subperm

/-- What a transform makes of items that came in, came in further on. -/
theorem entered_subperm (begun : start slots stages shared = .ok first)
    (run : replay steps first = some (c, h)) (part : initial <+: stages)
    (computes : List.Forall₂ Stage.Computes initial fs) (hi : i ≤ initial.length) :
    entered i h <+~ (sent h).filterMap (composed (fs.take i)) := by
  have hfs := computes.length_eq
  induction i with
  | zero =>
    rw [List.take_zero]
    simp only [entered, composed, List.filterMap_some]
    exact List.Subperm.refl _
  | succ i ih =>
    have here : stages[i]? = some initial[i] := by
      obtain ⟨rest, rfl⟩ := part
      rw [List.getElem?_append_left hi, List.getElem?_eq_getElem hi]
    have hputs := puts_subperm_made begun run here
    rw [made_eq_filterMap begun run here (computes.get hi (by omega))] at hputs
    obtain ⟨ran, perm, sublist⟩ := (ran_subperm_entered begun run here).trans (ih (by omega))
    rw [← filterMap_composed (sent h) (by omega)]
    exact hputs.trans ((perm.filterMap _).symm.subperm.trans (sublist.filterMap _).subperm)

/-! ### At the close -/

section Closed

variable (begun : start slots stages shared = .ok first) (run : replay steps first = some (c, h))
  (here : stages[i]? = some stage) (going : c.cancelled = false)
  (closed : (c.act .receive).2 = .closed)

include begun run here going closed

/-- In a chain that was read until it is closed every item that came in was
transformed, and every value that was made was put out. -/
theorem length_of_closed : (Log.ran (log i h)).length = (entered i h).length ∧
    (entered (i + 1) h).length = (Log.made (log i h)).length := by
  obtain ⟨s, hs, -⟩ := exists_spot_of_replay begun run here
  have some_stage : stages ≠ [] := by
    rintro rfl
    cases here
  have balanced := ((sound_of_replay begun run).stage hs).balanced
  have gone := allGone_of_closed begun run some_stage going closed hs
  obtain ⟨all, split⟩ := split_of_closed begun run some_stage going closed hs
  have ran : (Log.taken (log i h)).length = (Log.ran (log i h)).length + s.crew.running.length :=
    balanced.ran_length
  rw [Crew.running_of_allGone gone, List.length_nil, Nat.add_zero] at ran
  have ended := (Scene.entered_perm split).length_eq
  rw [List.length_append, List.length_map, List.length_map] at ended
  have failed : (Log.failed (log i h)).length = (c.scene h i s).account.failed.length :=
    balanced.length_failed
  have puts : (Log.puts (log i h)).length = (c.scene h i s).account.delivered.length :=
    balanced.length_puts
  have made := Log.ran_length (log i h)
  change (entered i h).length = _ at ended
  rw [all] at ended ⊢
  change _ ∧ (Log.puts (log i h)).length = _
  omega

theorem ran_perm_entered : Log.ran (log i h) ~ entered i h :=
  (ran_subperm_entered begun run here).perm_of_length_le
    (length_of_closed begun run here going closed).1.ge

theorem puts_perm_made : entered (i + 1) h ~ Log.made (log i h) :=
  (puts_subperm_made begun run here).perm_of_length_le
    (length_of_closed begun run here going closed).2.ge

theorem ran_eq_entered (single : stage.workers = 1) : Log.ran (log i h) = entered i h :=
  (ran_prefix_entered begun run here single).eq_of_length
    (length_of_closed begun run here going closed).1

theorem puts_eq_made (single : stage.workers = 1) : entered (i + 1) h = Log.made (log i h) :=
  (puts_prefix_made begun run here single).eq_of_length
    (length_of_closed begun run here going closed).2

end Closed

/-- What came into channel `i` of a chain whose first stages have one worker each, once
it was read until it is closed, in order. -/
theorem entered_eq_of_closed (begun : start slots stages shared = .ok first)
    (run : replay steps first = some (c, h)) (part : initial <+: stages)
    (computes : List.Forall₂ Stage.Computes initial fs)
    (single : ∀ stage ∈ initial, stage.workers = 1) (going : c.cancelled = false)
    (closed : (c.act .receive).2 = .closed) (some_stage : stages ≠ []) (hi : i ≤ initial.length) :
    entered i h = (sent h).filterMap (composed (fs.take i)) :=
  (entered_prefix_of_initial begun run part computes single hi).eq_of_length
    (entered_perm_of_initial begun run part computes some_stage going closed hi).length_eq

end Chain

end DocSieve
