import DocSieve.Proofs.Generator.Stream
import Mathlib

/-!
# The pace of requests

A tick is never early, so each request is made when it is due or later. A tick that comes
late by the tolerance at most does not shift the ones after it, which can then follow
faster than they should; a later tick shifts them all. Either way the next tick is due a
period after the one before it was due, and no earlier than a period after that one came,
less the tolerance.

These two bounds on the time of the next tick are all that a run needs: they carry over to
every pair of requests (`Spaced.next`), in whatever order the clock moves on, requests are
received, and the pacer is cancelled or dropped (`Pacer.Clocked.advance`). So the requests
that catch up after a stall are no more than those of the tolerance and one, and in the
long run there is one in each period (`Pacer.requests_paced`).

Key definitions: `Apart`, `Spaced`, `Pacer.firstDue`, `Pacer.Clocked`.
Key theorems: `Spaced.next`, `Apart.countP_le`, `Pacer.clocked_of_replay`,
`Pacer.requests_paced`.
-/

namespace DocSieve

/-! ### Times that keep a pace -/

/-- Any two of the times are as many periods apart as there are steps between them, less the
tolerance. -/
def Apart (period : Nat) (times : List Nat) : Prop :=
  ∀ i n s t, times[i]? = some s → times[i + n]? = some t → s + n * period ≤ t + tolerance

/-- The times are apart, and none comes before it is due. -/
structure Spaced (period due : Nat) (times : List Nat) : Prop where
  punctual : ∀ k t, times[k]? = some t → due + k * period ≤ t
  apart : Apart period times

section Times

variable {period due now tick tick' : Nat} {times : List Nat}

theorem getElem?_concat_eq_some {l : List Nat} {k x t : Nat} :
    (l ++ [x])[k]? = some t ↔ l[k]? = some t ∨ k = l.length ∧ t = x := by
  rw [List.getElem?_append]
  by_cases within : k < l.length
  · rw [if_pos within]
    exact ⟨.inl, fun h => h.resolve_right fun last => by omega⟩
  · rw [if_neg within, List.getElem?_eq_none (Nat.not_lt.mp within), List.getElem?_singleton]
    by_cases last : k = l.length
    · simp [last, eq_comm]
    · have beyond : k - l.length ≠ 0 := by omega
      simp [last, beyond]

namespace Apart

theorem sublist {kept : List Nat} (apart : Apart period times) (sub : kept.Sublist times) :
    Apart period kept := by
  obtain ⟨f, same⟩ := List.sublist_iff_exists_orderEmbedding_getElem?_eq.mp sub
  intro i n s t first second
  have further : f i + n ≤ f (i + n) := by
    rw [Nat.add_comm (f i), Nat.add_comm i]
    exact f.strictMono.add_le_nat n i
  obtain ⟨m, place⟩ := Nat.exists_eq_add_of_le further
  rw [Nat.add_assoc] at place
  have bound : s + (n + m) * period ≤ t + tolerance := by
    apply apart (f i) (n + m)
    · rw [← same, first]
    · rw [← place, ← same, second]
  have longer : n * period ≤ (n + m) * period := Nat.mul_le_mul_right period (Nat.le_add_right n m)
  omega

theorem length_le {a b : Nat} (pos : 0 < period) (apart : Apart period times)
    (within : ∀ t ∈ times, a ≤ t ∧ t ≤ b) :
    times.length ≤ (b - a + tolerance) / period + 1 := by
  cases length : times.length with
  | zero => exact Nat.zero_le _
  | succ n =>
    have first : times[0]? = some times[0] := List.getElem?_eq_getElem (by omega)
    have last : times[0 + n]? = some times[n] := by
      rw [Nat.zero_add]
      exact List.getElem?_eq_getElem (by omega)
    have bound := apart 0 n _ _ first last
    have after := (within times[0] (List.getElem_mem _)).1
    have before := (within times[n] (List.getElem_mem _)).2
    apply Nat.succ_le_succ
    rw [Nat.le_div_iff_mul_le pos]
    omega

/-- **However long the stall, the burst is bounded.** -/
theorem countP_le (pos : 0 < period) (apart : Apart period times) (a b : Nat) :
    times.countP (fun t => a ≤ t ∧ t ≤ b) ≤ (b - a + tolerance) / period + 1 := by
  rw [List.countP_eq_length_filter]
  refine (apart.sublist List.filter_sublist).length_le pos ?_
  intro t mem
  simpa using (List.mem_filter.mp mem).2

end Apart

namespace Spaced

theorem nil (period due : Nat) : Spaced period due [] := ⟨by simp, by simp [Apart]⟩

theorem init {last : Nat} (spaced : Spaced period due (times ++ [last])) :
    Spaced period due times := by
  constructor
  · intro k t h
    exact spaced.punctual k t (getElem?_concat_eq_some.mpr (.inl h))
  · intro i n s t first second
    exact spaced.apart i n s t (getElem?_concat_eq_some.mpr (.inl first))
      (getElem?_concat_eq_some.mpr (.inl second))

theorem last {last : Nat} (spaced : Spaced period due (times ++ [last])) :
    due + times.length * period ≤ last ∧ ∀ i n s, i + n = times.length → times[i]? = some s →
      s + n * period ≤ last + tolerance := by
  have at_end : (times ++ [last])[times.length]? = some last :=
    getElem?_concat_eq_some.mpr (.inr ⟨rfl, rfl⟩)
  refine ⟨spaced.punctual _ _ at_end, fun i n s length first => ?_⟩
  exact spaced.apart i n s last (getElem?_concat_eq_some.mpr (.inl first)) (length ▸ at_end)

/-- A time that is far enough from all before it can come last. -/
theorem concat {last : Nat} (spaced : Spaced period due times)
    (punctual : due + times.length * period ≤ last)
    (apart : ∀ i n s, i + n = times.length → times[i]? = some s →
      s + n * period ≤ last + tolerance) :
    Spaced period due (times ++ [last]) := by
  constructor
  · intro k t h
    rcases getElem?_concat_eq_some.mp h with h | ⟨rfl, rfl⟩
    · exact spaced.punctual k t h
    · exact punctual
  · intro i n s t first second
    rcases getElem?_concat_eq_some.mp first with before | ⟨rfl, rfl⟩
    · rcases getElem?_concat_eq_some.mp second with after | ⟨length, rfl⟩
      · exact spaced.apart i n s t before after
      · exact apart i n s length before
    · -- nothing stands after the last time
      have within := (List.getElem?_eq_some_iff.mp second).1
      rw [List.length_append, List.length_singleton] at within
      obtain rfl : n = 0 := by omega
      rw [Nat.add_zero, first, Option.some.injEq] at second
      omega

theorem singleton (period due : Nat) : Spaced period due [due] :=
  (nil period due).concat (by simp) (by simp)

/-- What is due last may come late. -/
theorem late (spaced : Spaced period due (times ++ [tick])) (late : tick ≤ now) :
    Spaced period due (times ++ [now]) := by
  obtain ⟨punctual, apart⟩ := spaced.last
  refine spaced.init.concat (Nat.le_trans punctual late) fun i n s length first => ?_
  have bound := apart i n s length first
  omega

/-- **The next time keeps the pace** if it is due a period after the last one was due, and a
period after that one came less the tolerance. -/
theorem next (spaced : Spaced period due (times ++ [tick])) (late : tick ≤ now)
    (steady : tick + period ≤ tick') (shifted : now + period ≤ tick' + tolerance) :
    Spaced period due (times ++ [now] ++ [tick']) := by
  obtain ⟨punctual, apart⟩ := spaced.last
  refine (spaced.late late).concat ?_ fun i n s length first => ?_
  · rw [List.length_append, List.length_singleton, Nat.succ_mul]
    omega
  · rw [List.length_append, List.length_singleton] at length
    rcases getElem?_concat_eq_some.mp first with before | ⟨rfl, rfl⟩
    · obtain ⟨m, rfl⟩ : ∃ m, n = m + 1 := by
        have within := (List.getElem?_eq_some_iff.mp before).1
        exact ⟨n - 1, by omega⟩
      have bound := apart i m s (by omega) before
      rw [Nat.succ_mul]
      omega
    · obtain rfl : n = 1 := by omega
      omega

end Spaced

end Times

namespace Pacer

/-! ### When requests are made -/

/-- The request that was made, and when. -/
def Occurrence.timed? : Occurrence → Option (Nat × Request)
  | .made time request => some (time, request)
  | _ => none

/-- The time of the request that was made. -/
def Occurrence.time? (o : Occurrence) : Option Nat := o.timed?.map Prod.fst

namespace History

/-- The requests made, each with its time. -/
def timed (h : History) : List (Nat × Request) := h.filterMap (·.timed?)

/-- The times at which requests were made. -/
def times (h : History) : List Nat := h.timed.map Prod.fst

theorem made_eq_timed (h : History) : h.made = h.timed.map Prod.snd := by
  unfold made timed
  rw [List.map_filterMap]
  congr 1
  funext o
  cases o <;> rfl

theorem length_times (h : History) : h.times.length = h.made.length := by
  rw [made_eq_timed, times, List.length_map, List.length_map]

theorem times_concat (h : History) (o : Occurrence) :
    times (h ++ [o]) = times h ++ o.time?.toList := by
  unfold times timed
  rw [List.filterMap_append, List.map_append]
  cases o <;> rfl

end History

/-- The time that a step lets pass. -/
def Step.duration : Step → Nat
  | .pass duration => duration
  | _ => 0

/-- The time when the pacer first runs, which is when its first tick is due. -/
def firstDue : List Step → Nat
  | [] => 0
  | step :: rest => if step = .go then 0 else step.duration + firstDue rest

theorem firstDue_concat (before : List Step) (step : Step) :
    firstDue (before ++ [step]) =
      if .go ∈ before then firstDue before else firstDue before + step.duration := by
  induction before with
  | nil => cases step <;> simp [firstDue, Step.duration]
  | cons first rest ih =>
    by_cases go : first = .go
    · simp [firstDue, go]
    · simp only [List.cons_append, firstDue, if_neg go, ih, List.mem_cons, Ne.symm go, false_or]
      split
      · rfl
      · rw [Nat.add_assoc]

/-- What holds of the times at which requests were made after some steps. -/
structure Clocked (w : Workload) (before : List Step) (times : List Nat) (p : Pacer) : Prop where
  asks : p.workload = w
  past : ∀ t ∈ times, t ≤ p.now
  /-- A pacer that has not run finds its first tick due now. -/
  idle : p.phase = .starting → .go ∉ before ∧ times = [] ∧ firstDue before = p.now
  /-- The next tick keeps the pace of the ones before it, and the first one is due when the
  pacer first ran. -/
  running : p.phase ≠ .starting →
    .go ∈ before ∧ (times = [] → p.deadline = firstDue before) ∧
      Spaced w.period (firstDue before) (times ++ [p.deadline])

variable {w : Workload} {words : WordStream} {slots : Nat} {before steps : List Step}
  {times : List Nat} {h : History} {p p₀ q : Pacer}

theorem next_phase (p : Pacer) : p.next.phase ≠ .starting := by
  unfold next
  split <;> simp [stop]

@[simp] theorem next_workload (p : Pacer) : p.next.workload = p.workload := by
  unfold next
  split <;> rfl

@[simp] theorem next_deadline (p : Pacer) : p.next.deadline = p.deadline := by
  unfold next
  split <;> rfl

/-- The next tick is due a period after this one was due, and a period after it came less
the tolerance. -/
theorem nextDeadline_bounds (p : Pacer) :
    p.deadline + p.workload.period ≤ p.nextDeadline ∧
      p.now + p.workload.period ≤ p.nextDeadline + tolerance := by
  unfold nextDeadline
  split <;> omega

namespace Clocked

/-- A step that makes no request and does not start the pacer. -/
theorem quiet (clocked : Clocked w before times p) {step : Step} {o : Occurrence}
    (none : o.time? = none) (workload : q.workload = p.workload)
    (now : q.now = p.now + step.duration) (deadline : q.deadline = p.deadline)
    (phase : q.phase = .starting ↔ p.phase = .starting)
    (started : step = .go → p.phase ≠ .starting) :
    Clocked w (before ++ [step]) (times ++ o.time?.toList) q := by
  rw [none, Option.toList_none, List.append_nil]
  constructor
  · rw [workload, clocked.asks]
  · intro t mem
    have past := clocked.past t mem
    omega
  · intro starting
    obtain ⟨fresh, empty, due⟩ := clocked.idle (phase.mp starting)
    have other : step ≠ .go := fun go => started go (phase.mp starting)
    refine ⟨by simp [fresh, other.symm], empty, ?_⟩
    rw [firstDue_concat, if_neg fresh, due, now]
  · intro running
    obtain ⟨go, due, spaced⟩ := clocked.running (mt phase.mpr running)
    rw [firstDue_concat, if_pos go, deadline]
    exact ⟨by simp [go], due, spaced⟩

theorem start (clocked : Clocked w before times p) (phase : p.phase = .starting) :
    Clocked w (before ++ [.go]) times (next { p with deadline := p.now }) := by
  obtain ⟨fresh, empty, due⟩ := clocked.idle phase
  constructor
  · rw [next_workload]
    exact clocked.asks
  · rw [empty]
    simp
  · intro starting
    exact absurd starting (next_phase _)
  · intro _
    rw [firstDue_concat, if_neg fresh, due, next_deadline, empty]
    exact ⟨by simp, fun _ => rfl, Spaced.singleton w.period p.now⟩

/-- A tick keeps the pace, however late it comes. -/
theorem fire (clocked : Clocked w before times p) (phase : p.phase = .waiting)
    (due : p.deadline ≤ p.now) : Clocked w (before ++ [.go]) (times ++ [p.now]) p.fire := by
  obtain ⟨go, -, spaced⟩ := clocked.running (by simp [phase])
  obtain ⟨steady, shifted⟩ := p.nextDeadline_bounds
  rw [clocked.asks] at steady shifted
  constructor
  · exact clocked.asks
  · intro t mem
    show t ≤ p.now
    rcases List.mem_append.mp mem with mem | mem
    · exact clocked.past t mem
    · rw [List.mem_singleton.mp mem]
  · intro starting
    cases starting
  · intro _
    rw [firstDue_concat, if_pos go]
    exact ⟨by simp [go], by simp, spaced.next due steady shifted⟩

/-- **Each step keeps the pace.** -/
theorem advance (clocked : Clocked w before times p) {step : Step} {o : Occurrence}
    (n : Next p step o q) : Clocked w (before ++ [step]) (times ++ o.time?.toList) q := by
  cases n with
  | start phase => simpa [Occurrence.time?, Occurrence.timed?] using clocked.start phase
  | fire phase _ due => exact clocked.fire phase due
  | send phase =>
    refine clocked.quiet rfl (next_workload _) (next_now _) (next_deadline _) ?_ (by simp [phase])
    exact iff_of_false (next_phase _) (by simp [phase])
  | stop phase =>
    have started : p.phase ≠ .starting := by
      rcases phase with ⟨phase, -⟩ | ⟨_, phase, -⟩ <;> simp [phase]
    exact clocked.quiet rfl rfl rfl rfl (iff_of_false (by simp [stop]) started) fun _ => started
  | _ => exact clocked.quiet rfl rfl rfl rfl Iff.rfl (by simp)

theorem spaced (clocked : Clocked w before times p) : Spaced w.period (firstDue before) times := by
  by_cases phase : p.phase = .starting
  · obtain ⟨-, empty, -⟩ := clocked.idle phase
    rw [empty]
    exact .nil _ _
  · exact (clocked.running phase).2.2.init

theorem length_le (clocked : Clocked w before times p) :
    times.length ≤ (p.now - firstDue before) / w.period + 1 := by
  cases length : times.length with
  | zero => exact Nat.zero_le _
  | succ n =>
    have last : times[n]? = some times[n] := List.getElem?_eq_getElem (by omega)
    have due := clocked.spaced.punctual n _ last
    have past := clocked.past times[n] (List.getElem_mem _)
    apply Nat.succ_le_succ
    rw [Nat.le_div_iff_mul_le w.period_pos]
    omega

end Clocked

/-! ### Runs -/

theorem clocked_of_start (started : start w words slots = .ok p) : Clocked w [] [] p := by
  cases eq_of_start started
  exact ⟨rfl, nofun, fun _ => ⟨nofun, rfl, rfl⟩, fun running => absurd rfl running⟩

theorem clocked_of_replay (started : start w words slots = .ok p₀)
    (run : replay steps p₀ = some (p, h)) : Clocked w steps h.times p := by
  refine replayWith_invariant (P := fun before h p => Clocked w before (History.times h) p)
    (b := []) (h := []) ?_ (clocked_of_start started) run
  intro before h p step next o clocked advance
  rw [History.times_concat]
  exact clocked.advance (next_of_advance? advance)

/-- **The pace of the requests.** In every run, the request with the number `k` is made `k`
periods after the first tick was due, or later, and any two are as many periods apart as
their numbers, less five milliseconds. So between two times only as many requests are made
as periods fit in with five milliseconds more, and one; and up to now only as many as
periods have passed, and one. The period is a second divided by the rate in whole
nanoseconds, and at least one. -/
theorem requests_paced (started : start w words slots = .ok p₀)
    (run : replay steps p₀ = some (p, h)) :
    w.period = max (1000000000 / max w.rate.toNat 1) 1 ∧
    h.made = h.timed.map Prod.snd ∧
    (p.phase ≠ .starting → h.made = [] → p.deadline = firstDue steps) ∧
    (∀ k t, h.times[k]? = some t → firstDue steps + k * w.period ≤ t) ∧
    (∀ i j s t, i < j → h.times[i]? = some s → h.times[j]? = some t →
      s + (j - i) * w.period ≤ t + 5000000) ∧
    (∀ a b, h.times.countP (fun t => a ≤ t ∧ t ≤ b) ≤ (b - a + 5000000) / w.period + 1) ∧
    h.made.length ≤ (p.now - firstDue steps) / w.period + 1 := by
  have clocked := clocked_of_replay started run
  refine ⟨rfl, h.made_eq_timed, ?_, clocked.spaced.punctual, ?_, ?_, ?_⟩
  · intro phase none
    refine (clocked.running phase).2.1 (List.length_eq_zero_iff.mp ?_)
    rw [h.length_times, none, List.length_nil]
  · intro i j s t before first second
    refine clocked.spaced.apart i (j - i) s t first ?_
    rwa [Nat.add_sub_cancel' (Nat.le_of_lt before)]
  · exact clocked.spaced.apart.countP_le w.period_pos
  · rw [← h.length_times]
    exact clocked.length_le

/-- A thousand windows a second, without limit. -/
def burstWorkload : Workload := ⟨1, 1, "doc", 1000, "file", 1, none⟩

/-- The clock stands still after the first request and jumps: three requests catch up. -/
def burstSteps : List Step :=
  [.pass 3000000, .go, .go, .go, .pass 4000000, .go, .go, .go, .go, .go, .go]

theorem requests_paced_burst :
    ∃ p₀ p h, start burstWorkload (fun _ => 0) 0 = .ok p₀ ∧ replay burstSteps p₀ = some (p, h) ∧
      h.times = [3000000, 7000000, 7000000, 7000000] ∧ firstDue burstSteps = 3000000 ∧
      firstDue burstSteps + 3 * burstWorkload.period ≤ 7000000 ∧
      7000000 + (3 - 1) * burstWorkload.period ≤ 7000000 + 5000000 ∧
      h.times.countP (fun t => 7000000 ≤ t ∧ t ≤ 7000000) ≤ 5000000 / burstWorkload.period + 1 ∧
      h.made.length ≤ (p.now - firstDue burstSteps) / burstWorkload.period + 1 := by
  obtain ⟨-, -, -, punctual, apart, burst, long⟩ :=
    requests_paced (rfl : start burstWorkload (fun _ => 0) 0 = .ok _)
      (rfl : replay burstSteps _ = some (_, _))
  exact ⟨_, _, _, rfl, rfl, rfl, rfl, punctual 3 7000000 rfl,
    apart 1 3 7000000 7000000 (by decide) rfl rfl, burst 7000000 7000000, long⟩

end Pacer

end DocSieve
