import DocSieve.Proofs.Chain.Scene
import Mathlib.Algebra.BigOperators.Group.List.Basic
import Mathlib.Algebra.GroupWithZero.Nat
import Mathlib.Data.List.Perm.Basic

/-!
# What the workers of a stage count

Every worker counts for itself what it takes, what fails and what it puts out, and hands
its counts in when it leaves. At any time the counts of a worker are those of its own part
of the log, and those of all workers together are those of the whole log (`Crew.Counted`):
a step of a worker changes its own counts by what it did, and nobody else's. Once all
workers are gone each has handed its counts in, and handed them in once, so adding up what
was handed in gives the counts of the stage.

Key definitions: `WorkerTally.Tells`, `Log.of`, `Log.leavers`, `Crew.Counted`.
Key theorems: `Crew.Counted.step`, `Crew.Counted.leave`, `Crew.Counted.returned_perm`,
`Crew.Counted.summarize`.
-/

namespace DocSieve

variable {σ α : Type}

/-! ### The log of one worker -/

/-- What one worker did. -/
def Log.of (w : Nat) (log : Log α) : Log α := log.filter (·.1 = w)

def Feat.isLeft : Feat α → Bool
  | .left => true
  | _ => false

/-- The workers that left, in this order. -/
def Log.leavers (log : Log α) : List Nat := (log.filter (·.2.isLeft)).map (·.1)

theorem Log.of_concat (log : Log α) (v w : Nat) (f : Feat α) :
    Log.of v (log ++ [(w, f)]) = Log.of v log ++ if w = v then [(w, f)] else [] := by
  by_cases h : w = v <;> simp [Log.of, h]

theorem Log.leavers_concat (log : Log α) (w : Nat) (f : Feat α) :
    Log.leavers (log ++ [(w, f)]) = Log.leavers log ++ if f.isLeft then [w] else [] := by
  cases h : f.isLeft <;> simp [Log.leavers, h]

/-! ### The counts of one worker -/

namespace WorkerTally

/-- The counts of a worker are those of a log. -/
structure Tells (t : WorkerTally) (log : Log α) : Prop where
  received : t.received = (Log.taken log).length
  failed : t.failed = (Log.failed log).length
  delivered : t.delivered = (Log.puts log).length

/-- The counts after a worker did something. -/
def count : Feat α → WorkerTally → WorkerTally
  | .took _ => (·.take)
  | .failed _ => (·.fail)
  | .put _ => (·.deliver)
  | .left | .made _ _ => id

variable (f : Feat α) (t : WorkerTally)

theorem received_count : (count f t).received = t.received + f.took?.toList.length := by
  cases f <;> rfl

theorem failed_count : (count f t).failed = t.failed + f.failed?.toList.length := by
  cases f <;> rfl

theorem delivered_count : (count f t).delivered = t.delivered + f.put?.toList.length := by
  cases f <;> rfl

variable {f t}

theorem tells_zero : zero.Tells ([] : Log α) := ⟨rfl, rfl, rfl⟩

theorem Tells.count {log : Log α} (h : t.Tells log) (w : Nat) (f : Feat α) :
    (count f t).Tells (log ++ [(w, f)]) where
  received := by rw [received_count, h.received, Log.taken_concat, List.length_append]
  failed := by rw [failed_count, h.failed, Log.failed_concat, List.length_append]
  delivered := by rw [delivered_count, h.delivered, Log.puts_concat, List.length_append]

theorem foldl_add (tallies : List WorkerTally) (t : WorkerTally) : tallies.foldl add t =
    ⟨t.received + (tallies.map (·.received)).sum, t.failed + (tallies.map (·.failed)).sum,
      t.delivered + (tallies.map (·.delivered)).sum⟩ := by
  induction tallies generalizing t with
  | nil => rfl
  | cons u rest ih =>
    rw [List.foldl_cons, ih]
    simp [add, Nat.add_assoc]

theorem sum_modify {field : WorkerTally → Nat} {change : WorkerTally → WorkerTally} {k : Nat}
    (grows : ∀ t, field (change t) = field t + k) {tallies : List WorkerTally} {w : Nat}
    (hw : w < tallies.length) :
    ((tallies.modify w change).map field).sum = (tallies.map field).sum + k := by
  induction tallies generalizing w with
  | nil => simp at hw
  | cons t rest ih =>
    cases w with
    | zero =>
      rw [List.modify_zero_cons, List.map_cons, List.map_cons, List.sum_cons, List.sum_cons, grows]
      omega
    | succ w =>
      rw [List.modify_succ_cons, List.map_cons, List.map_cons, List.sum_cons, List.sum_cons,
        ih (by simpa using hw), Nat.add_assoc]

/-- Who is not among some workers changes nothing that they have counted. -/
theorem filterMap_modify {change : WorkerTally → WorkerTally} {tallies : List WorkerTally}
    {w : Nat} {workers : List Nat} (hnot : w ∉ workers) :
    workers.filterMap ((tallies.modify w change)[·]?) = workers.filterMap (tallies[·]?) := by
  refine List.filterMap_congr fun v hv => ?_
  have : w ≠ v := fun e => hnot (e ▸ hv)
  simp [this]

theorem filterMap_range (tallies : List WorkerTally) :
    (List.range tallies.length).filterMap (tallies[·]?) = tallies := by
  induction tallies with
  | nil => rfl
  | cons t rest ih =>
    simpa [List.range_succ_eq_map, List.filterMap_map, Function.comp_def] using ih

end WorkerTally

/-! ### The counts of a crew -/

namespace Crew

section Sums

variable (crew : Crew σ α)

/-- The items that its workers have taken. -/
def received : Nat := (crew.tallies.map (·.received)).sum

/-- The items that its workers have failed on. -/
def failed : Nat := (crew.tallies.map (·.failed)).sum

/-- The values that its workers have put out. -/
def delivered : Nat := (crew.tallies.map (·.delivered)).sum

end Sums

theorem count_id (crew : Crew σ α) (w : Nat) : crew.count w id = crew := by
  simp [count, List.modify_id]

/-- The workers have counted what they did, each for itself, and who has left has handed
its counts in. -/
structure Counted (crew : Crew σ α) (log : Log α) : Prop where
  staffed : crew.tallies.length = crew.workers.length
  own : ∀ (w : Nat) (tally : WorkerTally), crew.tallies[w]? = some tally →
    tally.Tells (Log.of w log)
  received : crew.received = (Log.taken log).length
  failed : crew.failed = (Log.failed log).length
  delivered : crew.delivered = (Log.puts log).length
  /-- The counts that were handed in. -/
  returned : crew.returned = (Log.leavers log).filterMap (crew.tallies[·]?)
  once : (Log.leavers log).Nodup
  gone : ∀ w : Nat, crew.workers[w]? = some .gone ↔ w ∈ Log.leavers log

theorem counted_start (stage : Stage σ α) : (start stage).Counted [] where
  staffed := by simp [start]
  own w tally here := by
    obtain ⟨-, rfl⟩ : w < stage.workers ∧ WorkerTally.zero = tally := by
      simpa [start, List.getElem?_replicate] using here
    exact WorkerTally.tells_zero
  received := by simp [Crew.received, start, WorkerTally.zero, Log.taken]
  failed := by simp [Crew.failed, start, WorkerTally.zero, Log.failed]
  delivered := by simp [Crew.delivered, start, WorkerTally.zero, Log.puts]
  returned := rfl
  once := List.nodup_nil
  gone w := by simp [start, List.getElem?_replicate, Log.leavers]

namespace Counted

variable {crew : Crew σ α} {log : Log α} {w : Nat} {worker new : Worker α}

theorem lt_tallies (h : crew.Counted log) (here : crew.workers[w]? = some worker) :
    w < crew.tallies.length := by
  rw [h.staffed]
  exact (List.getElem?_eq_some_iff.mp here).1

theorem not_mem_leavers (h : crew.Counted log) (here : crew.workers[w]? = some worker)
    (stays : worker.isGone = false) : w ∉ Log.leavers log := by
  rw [← h.gone, here]
  rintro gone
  obtain rfl := Option.some.inj gone
  cases stays

/-- **A worker that goes on changes its own counts by what it did.** -/
theorem step {f : Feat α} (h : crew.Counted log) (here : crew.workers[w]? = some worker)
    (stays : worker.isGone = false) (stays' : new.isGone = false) (goes : f.isLeft = false) :
    ((crew.setWorker w new).count w (WorkerTally.count f)).Counted (log ++ [(w, f)]) := by
  have hw := h.lt_tallies here
  have leavers : Log.leavers (log ++ [(w, f)]) = Log.leavers log := by
    simp [Log.leavers_concat, goes]
  have hnot := h.not_mem_leavers here stays
  refine ⟨?_, fun v tally hv => ?_, ?_, ?_, ?_, ?_, ?_, fun v => ?_⟩
  · simpa [Crew.count, setWorker] using h.staffed
  · rw [Log.of_concat]
    simp only [Crew.count, setWorker, List.getElem?_modify, Option.map_eq_map,
      Option.map_eq_some_iff] at hv
    obtain ⟨old, hold, rfl⟩ := hv
    by_cases mine : w = v
    · subst mine
      simpa using (h.own w old hold).count w f
    · simpa [mine] using h.own v old hold
  · rw [Log.taken_concat, List.length_append, ← h.received]
    exact WorkerTally.sum_modify (WorkerTally.received_count f) hw
  · rw [Log.failed_concat, List.length_append, ← h.failed]
    exact WorkerTally.sum_modify (WorkerTally.failed_count f) hw
  · rw [Log.puts_concat, List.length_append, ← h.delivered]
    exact WorkerTally.sum_modify (WorkerTally.delivered_count f) hw
  · -- whoever has handed its counts in no longer changes them
    rw [leavers, show ((crew.setWorker w new).count w _).returned = crew.returned from rfl,
      h.returned]
    exact (WorkerTally.filterMap_modify hnot).symm
  · rw [leavers]
    exact h.once
  · rw [leavers]
    by_cases mine : w = v
    · subst mine
      have hne : new ≠ .gone := by
        rintro rfl
        cases stays'
      refine iff_of_false ?_ hnot
      simp [setWorker, List.getElem?_set, hne]
    · rw [← h.gone]
      simp [setWorker, List.getElem?_set_ne mine]

theorem leave (h : crew.Counted log) (here : crew.workers[w]? = some worker)
    (stays : worker.isGone = false) : (crew.leave w).Counted (log ++ [(w, .left)]) := by
  have leavers : Log.leavers (log ++ [(w, .left)]) = Log.leavers log ++ [w] := by
    simp [Log.leavers_concat, Feat.isLeft]
  have hnot := h.not_mem_leavers here stays
  refine ⟨?_, fun v tally hv => ?_, ?_, ?_, ?_, ?_, ?_, fun v => ?_⟩
  · simpa [Crew.leave, setWorker] using h.staffed
  · rw [Log.of_concat]
    have old := h.own v tally hv
    split
    · exact old.count w .left
    · simpa using old
  · exact h.received.trans (by simp [Feat.took?])
  · exact h.failed.trans (by simp [Feat.failed?])
  · exact h.delivered.trans (by simp [Feat.put?])
  · rw [leavers, List.filterMap_append, show (crew.leave w).tallies = crew.tallies from rfl,
      ← h.returned]
    cases tally : crew.tallies[w]? <;> simp [Crew.leave, tally]
  · rw [leavers, List.nodup_append]
    refine ⟨h.once, by simp, fun v hv u hu e => ?_⟩
    rw [List.mem_singleton.mp hu] at e
    exact hnot (e ▸ hv)
  · rw [leavers, List.mem_append, ← h.gone, List.mem_singleton]
    by_cases mine : w = v
    · subst mine
      simp [Crew.leave, setWorker, (List.getElem?_eq_some_iff.mp here).1]
    · simp [Crew.leave, setWorker, List.getElem?_set_ne mine, Ne.symm mine]

theorem finish (h : crew.Counted log) (summary : Option Summary) :
    Counted { crew with summary } log :=
  ⟨h.staffed, h.own, h.received, h.failed, h.delivered, h.returned, h.once, h.gone⟩

/-- When all are gone, all have handed their counts in, each once. -/
theorem returned_perm (h : crew.Counted log) (gone : crew.allGone = true) :
    crew.returned.Perm crew.tallies := by
  have everyone : (Log.leavers log).Perm (List.range crew.tallies.length) := by
    refine (List.perm_ext_iff_of_nodup h.once List.nodup_range).mpr fun w => ?_
    rw [← h.gone, List.mem_range, h.staffed]
    refine ⟨fun here => (List.getElem?_eq_some_iff.mp here).1, fun hw => ?_⟩
    rw [List.getElem?_eq_getElem hw]
    exact congrArg some (Crew.allGone_iff.mp gone _ (List.getElem_mem hw))
  rw [h.returned]
  exact (everyone.filterMap _).trans (.of_eq (WorkerTally.filterMap_range _))

theorem summarize (h : crew.Counted log) (gone : crew.allGone = true) (cancelled : Bool) :
    crew.summarize cancelled = ⟨crew.stage.name, crew.stage.workers, crew.received, crew.failed,
      crew.delivered, cancelled⟩ := by
  have perm := h.returned_perm gone
  simp only [Crew.summarize, WorkerTally.foldl_add, WorkerTally.zero, Nat.zero_add,
    (perm.map _).sum_eq, Crew.received, Crew.failed, Crew.delivered]

end Counted

end Crew

end DocSieve
