import DocSieve.Signal
import Mathlib.Data.List.Induction
import Mathlib.Logic.Relation

/-!
# Signals and their kin

What is asked of signals is a list of requests, and each of them is answered. From
requests and answers alone one can tell which signals were made, which is the clone of
which, who waits for whom and which were cancelled. Signals are kin if clones lead from
one to the other, in any direction and over any number of signals between them. At first
there are none; who begins with one signal has begun by making it (`after_create`).

The family that a signal keeps is the number of a kin, namely of the one that its clones
began with (`kin_founder`), and a clone has the family of its origin, so two signals are
of one family if and only if they are kin (`kin_iff`). Hence a signal is cancelled as
soon as one of its kin is, and for ever (`latched_and_shared`).

Key definitions: `Signals.Answered`, `Signals.Kin`.
Key theorems: `Signals.kin_iff`, `Signals.mem_cancelled_iff`, `Signals.told_iff`,
`Signals.latched_and_shared`.
-/

namespace DocSieve

namespace Signals

/-! ### What one request changes -/

section Step

variable (s : Signals) (r : SignalRequest)

/-- A signal is made with a family of its own, a clone with that of its origin. -/
theorem step_families : (s.step r).1.families = s.families ++
    match r with
    | .create => [s.families.length]
    | .clone i => s.families[i]?.toList
    | _ => [] := by
  cases r <;> unfold step <;> dsimp only <;> repeat' split
  all_goals simp_all [freshFamily]

theorem mem_step_cancelled {family : Nat} : family ∈ (s.step r).1.cancelled ↔
    family ∈ s.cancelled ∨ ∃ i, r = .cancel i ∧ s.families[i]? = some family := by
  cases r with
  | cancel i => cases here : s.families[i]? <;> simp [step, here, or_comm, eq_comm]
  | _ =>
    unfold step
    dsimp only
    repeat' split
    all_goals simp

/-- Who is asked for tells what it knows: that it was told before, or what its family is. -/
theorem step_poll {w : Nat} {waiter : Waiter} (here : s.waiters[w]? = some waiter) :
    (s.step (.poll w)).2 = .readiness (if waiter.told then .done
      else if s.familyCancelled waiter.family then .ready else .pending) := by
  unfold step
  simp only [here]
  repeat' split
  all_goals rfl

theorem step_waiters_length : (s.step r).1.waiters.length = s.waiters.length +
    match r with
    | .wait i => (s.families[i]?.toList).length
    | _ => 0 := by
  cases r <;> unfold step <;> dsimp only <;> repeat' split
  all_goals simp_all

/-- A waiter is made for the family of its signal, and it is told once it is asked after
a cancel of that family. -/
theorem step_waiter (w : Nat) : (s.step r).1.waiters[w]? =
    match r with
    | .wait i => (s.waiters ++ (s.families[i]?.map (Waiter.mk · false)).toList)[w]?
    | .poll v => s.waiters[w]?.map fun waiter =>
      { waiter with told := waiter.told || (v = w && s.familyCancelled waiter.family) }
    | _ => s.waiters[w]? := by
  cases r with
  | poll v =>
    unfold step
    dsimp only
    by_cases same : v = w
    · subst same
      rcases here : s.waiters[v]? with _ | ⟨family, told⟩
      · simp [here]
      · obtain ⟨bound, value⟩ := List.getElem?_eq_some_iff.mp here
        cases told <;> cases cancelled : s.familyCancelled family <;>
          simp [cancelled, bound, value]
    · repeat' split
      all_goals simp [same]
  | create | clone i | cancel i | isCancelled i | wait i =>
    unfold step
    dsimp only
    repeat' split
    all_goals simp_all

theorem step_waiter_kept {w : Nat} {waiter : Waiter} (here : s.waiters[w]? = some waiter) :
    ∃ told, (s.step r).1.waiters[w]? = some ⟨waiter.family, told⟩ := by
  rw [step_waiter]
  cases r with
  | poll v => exact ⟨_, by rw [here]; rfl⟩
  | wait i =>
    dsimp only
    exact ⟨_, by rw [List.getElem?_append_left (List.getElem?_eq_some_iff.mp here).1, here]⟩
  | _ => exact ⟨_, here⟩

theorem step_told {w : Nat} :
    (∃ waiter, (s.step r).1.waiters[w]? = some waiter ∧ waiter.told = true) ↔
      (∃ waiter, s.waiters[w]? = some waiter ∧ waiter.told = true) ∨
        r = .poll w ∧ (s.step (.poll w)).2 = .readiness .ready := by
  rw [step_waiter]
  cases r with
  | poll v =>
    rcases here : s.waiters[w]? with _ | ⟨family, told⟩
    · simp [step, here]
    · rw [step_poll s here]
      cases told <;> cases cancelled : s.familyCancelled family <;> simp [cancelled]
  | wait i =>
    dsimp only
    cases s.families[i]? with
    | none => simp
    | some family =>
      -- A new waiter has not been told.
      rw [List.getElem?_append]
      split
      · simp
      · rename_i new
        have none_here : s.waiters[w]? = none := List.getElem?_eq_none (Nat.le_of_not_lt new)
        simp [none_here, List.getElem?_singleton]
  | _ => simp

end Step

/-! ### Requests and answers -/

/-- No signals. -/
def empty : Signals := ⟨[], [], []⟩

/-- The signals after some requests. -/
def after (requests : List SignalRequest) : Signals :=
  requests.foldl (fun s r => (s.step r).1) empty

/-- The answer to a request after others. -/
def answer (requests : List SignalRequest) (r : SignalRequest) : SignalAnswer :=
  ((after requests).step r).2

/-- Among the requests is this one, and it was answered so. -/
def Answered (requests : List SignalRequest) (r : SignalRequest) (a : SignalAnswer) : Prop :=
  ∃ early late, requests = early ++ r :: late ∧ answer early r = a

/-- A signal of this number was made. -/
def Made (requests : List SignalRequest) (i : Nat) : Prop :=
  Answered requests .create (.count (i + 1)) ∨ ∃ j, Answered requests (.clone j) (.count (i + 1))

/-- The second signal is a clone of the first. -/
def Cloned (requests : List SignalRequest) (i j : Nat) : Prop :=
  Answered requests (.clone i) (.count (j + 1))

/-- Clones lead from one signal to the other. -/
def Kin (requests : List SignalRequest) : Nat → Nat → Prop := Relation.EqvGen (Cloned requests)

/-- The signal was asked to cancel. -/
def Cancelled (requests : List SignalRequest) (i : Nat) : Prop :=
  ∃ flags, Answered requests (.cancel i) (.flags flags)

/-- The waiter waits for the signal. -/
def WaitsFor (requests : List SignalRequest) (w i : Nat) : Prop :=
  Answered requests (.wait i) (.count (w + 1))

/-- The waiter was told that its signal is cancelled. -/
def Told (requests : List SignalRequest) (w : Nat) : Prop :=
  Answered requests (.poll w) (.readiness .ready)

variable {requests : List SignalRequest} {r r' : SignalRequest} {a : SignalAnswer} {i j w : Nat}

theorem after_concat : after (requests ++ [r]) = ((after requests).step r).1 := by
  rw [after, List.foldl_append]
  rfl

theorem not_answered_nil : ¬ Answered [] r a := by
  rintro ⟨early, late, split, -⟩
  simp at split

theorem answered_concat :
    Answered (requests ++ [r']) r a ↔ Answered requests r a ∨ r' = r ∧ answer requests r = a := by
  constructor
  · rintro ⟨early, late, split, answered⟩
    rcases List.eq_nil_or_concat late with rfl | ⟨late, last, rfl⟩
    · obtain ⟨rfl, last⟩ := List.append_inj' split rfl
      exact .inr ⟨by simpa using last, answered⟩
    · rw [List.concat_eq_append, ← List.cons_append, ← List.append_assoc] at split
      obtain ⟨rfl, -⟩ := List.append_inj' split rfl
      exact .inl ⟨early, late, rfl, answered⟩
  · rintro (⟨early, late, rfl, answered⟩ | ⟨rfl, answered⟩)
    · exact ⟨early, late ++ [r'], by simp, answered⟩
    · exact ⟨requests, [], rfl, answered⟩

theorem Answered.append (h : Answered requests r a) (more : List SignalRequest) :
    Answered (requests ++ more) r a := by
  obtain ⟨early, late, rfl, answered⟩ := h
  exact ⟨early, late ++ more, by simp, answered⟩

/-! ### The answers -/

theorem answer_create :
    answer requests .create = .count ((after requests).families.length + 1) := rfl

theorem answer_clone : answer requests (.clone i) =
    if i < (after requests).families.length then .count ((after requests).families.length + 1)
    else .unknown := by
  unfold answer step
  by_cases made : i < (after requests).families.length <;> simp [made]

theorem answer_wait : answer requests (.wait i) =
    if i < (after requests).families.length then .count ((after requests).waiters.length + 1)
    else .unknown := by
  unfold answer step
  by_cases made : i < (after requests).families.length <;> simp [made]

theorem answer_isCancelled {family : Nat}
    (here : (after requests).families[i]? = some family) :
    answer requests (.isCancelled i) = .flag ((after requests).familyCancelled family) := by
  unfold answer step
  simp only [here]

theorem answer_cancel : (∃ flags, answer requests (.cancel i) = .flags flags) ↔
    i < (after requests).families.length := by
  unfold answer step
  dsimp only
  split <;> rename_i here
  · simpa using (List.getElem?_eq_some_iff.mp here).1
  · simpa using here

/-! ### Families -/

theorem families_concat : (after (requests ++ [r])).families = (after requests).families ++
    match r with
    | .create => [(after requests).families.length]
    | .clone i => (after requests).families[i]?.toList
    | _ => [] := by
  rw [after_concat, step_families]

/-- Signals are numbered in the order of their making. -/
theorem made_iff : Made requests i ↔ i < (after requests).families.length := by
  induction requests using List.reverseRecOn with
  | nil => simp [Made, not_answered_nil, after, empty]
  | append_singleton requests r ih =>
    have concat : Made (requests ++ [r]) i ↔ Made requests i ∨
        r = .create ∧ answer requests .create = .count (i + 1) ∨
        ∃ j, r = .clone j ∧ answer requests (.clone j) = .count (i + 1) := by
      unfold Made
      simp only [answered_concat, exists_or]
      tauto
    rw [concat, ih, families_concat, List.length_append]
    cases r with
    | create =>
      simp only [answer_create, true_and, SignalAnswer.count.injEq, reduceCtorEq, false_and,
        exists_false, or_false, List.length_singleton]
      omega
    | clone j =>
      by_cases made : j < (after requests).families.length
      · simp only [answer_clone, if_pos made, reduceCtorEq, false_and, false_or,
          SignalRequest.clone.injEq, exists_eq_left', SignalAnswer.count.injEq,
          List.getElem?_eq_getElem made, Option.toList_some, List.length_singleton]
        omega
      · simp [answer_clone, made]
    | _ => simp

theorem families_kept {family : Nat} (here : (after requests).families[i]? = some family) :
    (after (requests ++ [r])).families[i]? = some family := by
  rw [families_concat, List.getElem?_append_left (List.getElem?_eq_some_iff.mp here).1, here]

/-- A family is that of an earlier signal, or a signal has just been made with it. -/
theorem family_cases {family : Nat}
    (here : (after (requests ++ [r])).families[i]? = some family) :
    (after requests).families[i]? = some family ∨ i = (after requests).families.length ∧
      (r = .create ∧ family = i ∨
        ∃ k, r = .clone k ∧ (after requests).families[k]? = some family) := by
  rw [families_concat, List.getElem?_append] at here
  split at here
  · exact .inl here
  · right
    obtain ⟨bound, value⟩ := List.getElem?_eq_some_iff.mp here
    cases r with
    | create =>
      rw [List.length_singleton] at bound
      have last : i = (after requests).families.length := by omega
      exact ⟨last, .inl ⟨rfl, by simpa [last] using value.symm⟩⟩
    | clone k =>
      cases origin : (after requests).families[k]? with
      | none => simp [origin] at bound
      | some f =>
        simp only [origin, Option.toList_some, List.length_singleton] at bound value
        exact ⟨by omega, .inr ⟨k, rfl, by simpa [origin] using value⟩⟩
    | _ => simp at bound

theorem family_of_cloned (h : Cloned requests i j) :
    ∃ family, (after requests).families[i]? = some family ∧
      (after requests).families[j]? = some family := by
  induction requests using List.reverseRecOn with
  | nil => exact absurd h not_answered_nil
  | append_singleton requests r ih =>
    rcases answered_concat.mp h with earlier | ⟨rfl, answered⟩
    · obtain ⟨family, first, second⟩ := ih earlier
      exact ⟨family, families_kept first, families_kept second⟩
    · rw [answer_clone] at answered
      split at answered
      · rename_i made
        obtain rfl : (after requests).families.length = j := by simpa using answered
        refine ⟨_, families_kept (List.getElem?_eq_getElem made), ?_⟩
        rw [families_concat]
        simp [made]
      · cases answered

theorem Kin.append (h : Kin requests i j) (more : List SignalRequest) :
    Kin (requests ++ more) i j :=
  Relation.EqvGen.mono (fun _ _ (cloned : Cloned requests _ _) => cloned.append more) _ _ h

/-- The family is the number of the signal that the clones began with. -/
theorem kin_founder {family : Nat} (here : (after requests).families[i]? = some family) :
    Kin requests i family := by
  induction requests using List.reverseRecOn generalizing i with
  | nil => simp [after, empty] at here
  | append_singleton requests r ih =>
    rcases family_cases here with earlier | ⟨rfl, ⟨rfl, rfl⟩ | ⟨k, rfl, origin⟩⟩
    · exact (ih earlier).append [r]
    · exact .refl _
    · have cloned : Cloned (requests ++ [.clone k]) k (after requests).families.length :=
        answered_concat.mpr (.inr ⟨rfl, by
          rw [answer_clone, if_pos (List.getElem?_eq_some_iff.mp origin).1]⟩)
      exact .trans _ _ _ (.symm _ _ (.rel _ _ cloned)) ((ih origin).append _)

/-- **Signals are kin if and only if they are of one family.** -/
theorem kin_iff {family : Nat} (here : (after requests).families[i]? = some family) :
    Kin requests i j ↔ (after requests).families[j]? = some family := by
  constructor
  · intro kin
    have same : (after requests).families[i]? = (after requests).families[j]? := by
      clear here
      induction kin with
      | rel i j cloned =>
        obtain ⟨family, first, second⟩ := family_of_cloned cloned
        rw [first, second]
      | refl => rfl
      | symm _ _ _ ih => exact ih.symm
      | trans _ _ _ _ _ first second => exact first.trans second
    rw [← same, here]
  · intro there
    exact .trans _ _ _ (kin_founder here) (.symm _ _ (kin_founder there))

/-! ### Cancelled families -/

theorem cancelled_concat : Cancelled (requests ++ [r]) i ↔
    Cancelled requests i ∨ r = .cancel i ∧ i < (after requests).families.length := by
  unfold Cancelled
  simp only [answered_concat, exists_or, exists_and_left, answer_cancel]

theorem lt_of_cancelled (h : Cancelled requests i) : i < (after requests).families.length := by
  induction requests using List.reverseRecOn with
  | nil => exact absurd h.choose_spec not_answered_nil
  | append_singleton requests r ih =>
    rw [families_concat, List.length_append]
    rcases cancelled_concat.mp h with earlier | ⟨-, made⟩
    · exact Nat.lt_add_right _ (ih earlier)
    · exact Nat.lt_add_right _ made

/-- **A family is cancelled if and only if a signal of it was asked to cancel.** -/
theorem mem_cancelled_iff {family : Nat} : family ∈ (after requests).cancelled ↔
    ∃ j, Cancelled requests j ∧ (after requests).families[j]? = some family := by
  induction requests using List.reverseRecOn with
  | nil =>
    refine ⟨fun mem => absurd mem List.not_mem_nil, ?_⟩
    rintro ⟨_, ⟨_, asked⟩, -⟩
    exact absurd asked not_answered_nil
  | append_singleton requests r ih =>
    rw [after_concat, mem_step_cancelled, ih, ← after_concat]
    constructor
    · rintro (⟨j, cancelled, here⟩ | ⟨i, rfl, here⟩)
      · exact ⟨j, cancelled_concat.mpr (.inl cancelled), families_kept here⟩
      · have made := (List.getElem?_eq_some_iff.mp here).1
        exact ⟨i, cancelled_concat.mpr (.inr ⟨rfl, made⟩), families_kept here⟩
    · rintro ⟨j, cancelled, here⟩
      have made : j < (after requests).families.length := by
        rcases cancelled_concat.mp cancelled with earlier | ⟨-, made⟩
        · exact lt_of_cancelled earlier
        · exact made
      have before : (after requests).families[j]? = some family := by
        rcases family_cases here with before | ⟨new, -⟩
        · exact before
        · omega
      exact (cancelled_concat.mp cancelled).imp (fun earlier => ⟨j, earlier, before⟩)
        fun asked => ⟨j, asked.1, before⟩

/-- **A signal is cancelled if and only if some kin was asked to cancel.** -/
theorem answer_isCancelled_iff (made : Made requests i) {state : Bool} :
    answer requests (.isCancelled i) = .flag state ↔
      (state = true ↔ ∃ j, Kin requests i j ∧ Cancelled requests j) := by
  obtain ⟨family, here⟩ : ∃ family, (after requests).families[i]? = some family :=
    ⟨_, List.getElem?_eq_getElem (made_iff.mp made)⟩
  have kin : (after requests).familyCancelled family = true ↔
      ∃ j, Kin requests i j ∧ Cancelled requests j := by
    simp only [kin_iff here, and_comm, ← mem_cancelled_iff]
    exact List.contains_iff_mem
  rw [answer_isCancelled here, ← kin, SignalAnswer.flag.injEq]
  cases state <;> simp

/-! ### Waiters -/

/-- Waiters are numbered in the order of their making. -/
theorem waits_iff : (∃ i, WaitsFor requests w i) ↔ w < (after requests).waiters.length := by
  induction requests using List.reverseRecOn with
  | nil => simp [WaitsFor, not_answered_nil, after, empty]
  | append_singleton requests r ih =>
    have concat : (∃ i, WaitsFor (requests ++ [r]) w i) ↔ (∃ i, WaitsFor requests w i) ∨
        ∃ i, r = .wait i ∧ answer requests (.wait i) = .count (w + 1) := by
      unfold WaitsFor
      simp only [answered_concat, exists_or]
    rw [concat, ih, after_concat, step_waiters_length]
    cases r with
    | wait i =>
      by_cases made : i < (after requests).families.length
      · simp only [answer_wait, if_pos made, SignalRequest.wait.injEq, exists_eq_left',
          SignalAnswer.count.injEq, List.getElem?_eq_getElem made, Option.toList_some,
          List.length_singleton]
        omega
      · simp [answer_wait, made]
    | _ => simp

theorem waiter_of_waitsFor (h : WaitsFor requests w i) :
    ∃ waiter, (after requests).waiters[w]? = some waiter ∧
      (after requests).families[i]? = some waiter.family := by
  induction requests using List.reverseRecOn with
  | nil => exact absurd h not_answered_nil
  | append_singleton requests r ih =>
    rcases answered_concat.mp h with earlier | ⟨rfl, answered⟩
    · obtain ⟨waiter, here, family⟩ := ih earlier
      obtain ⟨told, there⟩ := step_waiter_kept _ r here
      exact ⟨⟨waiter.family, told⟩, by rw [after_concat, there], families_kept family⟩
    · rw [answer_wait] at answered
      split at answered
      · rename_i made
        obtain rfl : (after requests).waiters.length = w := by simpa using answered
        refine ⟨⟨_, false⟩, ?_, families_kept (List.getElem?_eq_getElem made)⟩
        rw [after_concat, step_waiter]
        simp [made]
      · cases answered

theorem told_iff : Told requests w ↔
    ∃ waiter, (after requests).waiters[w]? = some waiter ∧ waiter.told = true := by
  induction requests using List.reverseRecOn with
  | nil => simp [Told, not_answered_nil, after, empty]
  | append_singleton requests r ih =>
    rw [after_concat, step_told, ← ih]
    exact answered_concat

/-! ### The laws -/

theorem made_of_flag {state : Bool} (shown : answer requests (.isCancelled i) = .flag state) :
    Made requests i := by
  refine made_iff.mpr (Nat.lt_of_not_le fun out => ?_)
  unfold answer step at shown
  simp only [List.getElem?_eq_none out] at shown
  cases shown

theorem Made.append (h : Made requests i) (more : List SignalRequest) :
    Made (requests ++ more) i :=
  h.imp (·.append more) fun cloned => cloned.imp fun _ cloned => cloned.append more

theorem latched (cancelled : answer requests (.isCancelled i) = .flag true)
    (more : List SignalRequest) : answer (requests ++ more) (.isCancelled i) = .flag true := by
  have made := made_of_flag cancelled
  obtain ⟨j, kin, flags, asked⟩ := ((answer_isCancelled_iff made).mp cancelled).mp rfl
  refine (answer_isCancelled_iff (made.append more)).mpr ⟨fun _ => ?_, fun _ => rfl⟩
  exact ⟨j, kin.append more, flags, asked.append more⟩

theorem untouched (made : Made requests i) (other : ∀ j, r = .cancel j → ¬ Kin requests i j) :
    answer (requests ++ [r]) (.isCancelled i) = answer requests (.isCancelled i) := by
  obtain ⟨family, here⟩ : ∃ family, (after requests).families[i]? = some family :=
    ⟨_, List.getElem?_eq_getElem (made_iff.mp made)⟩
  have same : family ∈ (after (requests ++ [r])).cancelled ↔
      family ∈ (after requests).cancelled := by
    rw [after_concat, mem_step_cancelled, or_iff_left]
    rintro ⟨j, rfl, there⟩
    exact other j rfl ((kin_iff here).mpr there)
  rw [answer_isCancelled here, answer_isCancelled (families_kept here)]
  simp only [familyCancelled, List.contains_eq_mem, same]

/-- Who was not told yet is told if and only if the signal is cancelled. -/
theorem answer_poll (waits : WaitsFor requests w i) (untold : ¬ Told requests w) :
    ∃ state, answer requests (.isCancelled i) = .flag state ∧
      answer requests (.poll w) = .readiness (if state then .ready else .pending) := by
  obtain ⟨waiter, here, family⟩ := waiter_of_waitsFor waits
  have told : waiter.told = false := by
    rw [told_iff] at untold
    simpa using fun told => untold ⟨waiter, here, told⟩
  refine ⟨(after requests).familyCancelled waiter.family, answer_isCancelled family, ?_⟩
  rw [answer, step_poll _ here, told]
  rfl

/-- **A cancel is for ever, and for exactly the clones.** Signals and waiters are numbered
in the order of their making, and whoever was made can be asked for. Whatever was asked
before, a signal is cancelled if and only if some kin was asked to cancel. A waiter that was
not told yet is told if and only if the signal that it waits for is cancelled at that moment.
A signal that is cancelled remains so, and nothing but a cancel of its kin changes whether a
signal is cancelled. -/
theorem latched_and_shared (requests : List SignalRequest) :
    (∃ signals waiters, (∀ i, Made requests i ↔ i < signals) ∧
      (∀ w, (∃ i, WaitsFor requests w i) ↔ w < waiters) ∧
      answer requests .create = .count (signals + 1) ∧
      (∀ i, answer requests (.clone i) = if i < signals then .count (signals + 1) else .unknown) ∧
      (∀ i, answer requests (.wait i) = if i < signals then .count (waiters + 1) else .unknown) ∧
      ∀ i, (∃ flags, answer requests (.cancel i) = .flags flags) ↔ i < signals) ∧
    (∀ i, Made requests i → ∃ state, answer requests (.isCancelled i) = .flag state ∧
      (state = true ↔ ∃ j, Kin requests i j ∧ Cancelled requests j)) ∧
    (∀ w i, WaitsFor requests w i → ¬ Told requests w →
      ∃ state, answer requests (.isCancelled i) = .flag state ∧
        answer requests (.poll w) = .readiness (if state then .ready else .pending)) ∧
    (∀ i more, answer requests (.isCancelled i) = .flag true →
      answer (requests ++ more) (.isCancelled i) = .flag true) ∧
    ∀ i r, Made requests i → (∀ j, r = .cancel j → ¬ Kin requests i j) →
      answer (requests ++ [r]) (.isCancelled i) = answer requests (.isCancelled i) := by
  refine ⟨⟨(after requests).families.length, (after requests).waiters.length, fun _ => made_iff,
    fun _ => waits_iff, answer_create, fun _ => answer_clone, fun _ => answer_wait,
    fun _ => answer_cancel⟩, fun i made => ?_, fun _ _ => answer_poll,
    fun _ more cancelled => latched cancelled more, fun _ _ => untouched⟩
  classical
  exact ⟨decide (∃ j, Kin requests i j ∧ Cancelled requests j),
    (answer_isCancelled_iff made).mpr decide_eq_true_iff, decide_eq_true_iff⟩

/-- A signal and a clone, a stranger, one who waits for the clone, a cancel of the first
signal, and a clone of the clone after that. -/
def smallFamily : List SignalRequest :=
  [.create, .clone 0, .create, .wait 1, .cancel 0, .clone 1]

/-- The late clone is cancelled, the waiter is told, and the stranger is not touched. -/
theorem latched_and_shared_small :
    Made smallFamily 3 ∧ Kin smallFamily 3 0 ∧ Cancelled smallFamily 0 ∧
      answer smallFamily (.isCancelled 3) = .flag true ∧
    WaitsFor smallFamily 0 1 ∧ ¬ Told smallFamily 0 ∧
      answer smallFamily (.poll 0) = .readiness .ready ∧
    answer (smallFamily ++ [.poll 0, .create]) (.isCancelled 3) = .flag true ∧
    Made smallFamily 2 ∧ ¬ Kin smallFamily 2 3 ∧
      answer (smallFamily ++ [.cancel 3]) (.isCancelled 2) = .flag false := by
  obtain ⟨-, cancelled, polled, latched, untouched⟩ := latched_and_shared smallFamily
  have late : Made smallFamily 3 := made_iff.mpr (by decide)
  have stranger : Made smallFamily 2 := made_iff.mpr (by decide)
  have kin : Kin smallFamily 3 0 :=
    (kin_iff (show (after smallFamily).families[3]? = some 0 from rfl)).mpr rfl
  have asked : Cancelled smallFamily 0 :=
    ⟨_, [.create, .clone 0, .create, .wait 1], [.clone 1], rfl, rfl⟩
  obtain ⟨state, shown, iff⟩ := cancelled 3 late
  rw [iff.mpr ⟨0, kin, asked⟩] at shown
  have waits : WaitsFor smallFamily 0 1 :=
    ⟨[.create, .clone 0, .create], [.cancel 0, .clone 1], rfl, rfl⟩
  have untold : ¬ Told smallFamily 0 := by
    rw [told_iff]
    decide
  obtain ⟨state, shown', told⟩ := polled 0 1 waits untold
  obtain rfl : true = state := SignalAnswer.flag.inj shown'
  have no_kin : ¬ Kin smallFamily 2 3 := by
    rw [kin_iff (show (after smallFamily).families[2]? = some 2 from rfl)]
    decide
  refine ⟨late, kin, asked, shown, waits, untold, told, latched 3 _ shown, stranger, no_kin, ?_⟩
  exact untouched 2 (.cancel 3) stranger fun _ same => SignalRequest.cancel.inj same ▸ no_kin

end Signals

end DocSieve
