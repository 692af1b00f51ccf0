import DocSieve.Chain.Action
import DocSieve.Proofs.Replay

/-!
# Histories of a chain

A run of a chain is any list of steps: requests from outside and moves of its
own, in any order and of any length. Each step leaves one occurrence, and the
occurrences of a run are its history, oldest first. What was sent, received,
taken and put out is read off the history alone; the chain keeps none of it.

Key definitions: `Step`, `Occurrence`, `Chain.replay`, `History.entered`,
`History.drawn`.
Key theorems: `Chain.replay_append`, `Chain.replay_invariant`.
-/

namespace DocSieve

variable {σ α : Type}

/-- One step of a run. -/
inductive Step (α : Type)
  /-- Something is asked from outside. -/
  | ask (action : Action α)
  /-- The chain does something by itself. -/
  | move (m : Move)

/-- What a worker did, and what came of it. -/
inductive Feat (α : Type)
  | left
  | took (item : α)
  | made (item value : α)
  /-- The transform failed or crashed. -/
  | failed (item : α)
  | put (value : α)

/-- What one step shows. -/
inductive Occurrence (α : Type)
  | asked (action : Action α) (answer : Answer α)
  | worked (stage worker : Nat) (feat : Feat α)
  | ended (stage : Nat)

/-- The value that an outcome gives; none if the transform failed or crashed. -/
def Outcome.value? : Outcome α → Option α
  | .done value => some value
  | .failed | .crashed => none

/-- What a worker does at a spot, and what comes of it. -/
def Spot.feat (s : Spot σ α) : Deed α → Feat α
  | .leave => .left
  | .take item => .took item
  | .transform item =>
    match (s.crew.stage.transform s.shared item).2.value? with
    | some value => .made item value
    | none => .failed item
  | .put value => .put value

/-- What the workers of one stage did, by their positions, oldest first. -/
abbrev Log (α : Type) := List (Nat × Feat α)

/-- What the steps of a run showed, oldest first. -/
abbrev History (α : Type) := List (Occurrence α)

/-! ### What passed through a stage -/

def Feat.took? : Feat α → Option α
  | .took item => some item
  | _ => none

/-- The item whose transform ran to its end. -/
def Feat.ran? : Feat α → Option α
  | .made item _ => some item
  | .failed item => some item
  | _ => none

/-- The value that the transform made. -/
def Feat.made? : Feat α → Option α
  | .made _ value => some value
  | _ => none

/-- The item whose transform failed or crashed. -/
def Feat.failed? : Feat α → Option α
  | .failed item => some item
  | _ => none

def Feat.put? : Feat α → Option α
  | .put value => some value
  | _ => none

namespace Log

def taken (log : Log α) : List α := log.filterMap (·.2.took?)

/-- The items whose transform ran to its end. -/
def ran (log : Log α) : List α := log.filterMap (·.2.ran?)

def made (log : Log α) : List α := log.filterMap (·.2.made?)

/-- The items whose transform failed or crashed. -/
def failed (log : Log α) : List α := log.filterMap (·.2.failed?)

def puts (log : Log α) : List α := log.filterMap (·.2.put?)

theorem taken_append (a b : Log α) : taken (a ++ b) = taken a ++ taken b := List.filterMap_append

theorem ran_append (a b : Log α) : ran (a ++ b) = ran a ++ ran b := List.filterMap_append

theorem made_append (a b : Log α) : made (a ++ b) = made a ++ made b := List.filterMap_append

theorem failed_append (a b : Log α) : failed (a ++ b) = failed a ++ failed b :=
  List.filterMap_append

theorem puts_append (a b : Log α) : puts (a ++ b) = puts a ++ puts b := List.filterMap_append

/-! One entry more. -/

variable (log : Log α) (w : Nat) (f : Feat α)

@[simp] theorem taken_concat : taken (log ++ [(w, f)]) = taken log ++ f.took?.toList := by
  rw [taken_append]
  cases f <;> rfl

@[simp] theorem ran_concat : ran (log ++ [(w, f)]) = ran log ++ f.ran?.toList := by
  rw [ran_append]
  cases f <;> rfl

@[simp] theorem made_concat : made (log ++ [(w, f)]) = made log ++ f.made?.toList := by
  rw [made_append]
  cases f <;> rfl

@[simp] theorem failed_concat : failed (log ++ [(w, f)]) = failed log ++ f.failed?.toList := by
  rw [failed_append]
  cases f <;> rfl

@[simp] theorem puts_concat : puts (log ++ [(w, f)]) = puts log ++ f.put?.toList := by
  rw [puts_append]
  cases f <;> rfl

end Log

/-! ### What passed through a chain -/

/-- The item that the first channel accepted. -/
def Occurrence.sent? : Occurrence α → Option α
  | .asked (.send item) .sent => some item
  | _ => none

/-- The value that was received from the last channel. -/
def Occurrence.received? : Occurrence α → Option α
  | .asked .receive (.value v) => some v
  | _ => none

/-- What a worker of one of some stages did. -/
def Occurrence.feat? (p : Nat → Prop) [DecidablePred p] : Occurrence α → Option (Nat × Feat α)
  | .worked i w f => if p i then some (w, f) else none
  | _ => none

namespace History

/-- The items that the first channel accepted. -/
def sent (h : History α) : List α := h.filterMap (·.sent?)

/-- The values received from the last channel. -/
def received (h : History α) : List α := h.filterMap (·.received?)

/-- What the workers of stage `i` did. -/
def log (i : Nat) (h : History α) : Log α := h.filterMap (·.feat? (· = i))

/-- What went into channel `i`. -/
def entered : Nat → History α → List α
  | 0, h => sent h
  | i + 1, h => Log.puts (log i h)

/-- What was taken out of channel `i` of a chain of `n` stages. -/
def drawn (n i : Nat) (h : History α) : List α :=
  if i < n then Log.taken (log i h) else received h

theorem drawn_of_lt {n i : Nat} (hi : i < n) (h : History α) : drawn n i h = Log.taken (log i h) :=
  if_pos hi

theorem drawn_self (n : Nat) (h : History α) : drawn n n h = received h := if_neg (Nat.lt_irrefl n)

theorem sent_append (a b : History α) : sent (a ++ b) = sent a ++ sent b := List.filterMap_append

theorem received_append (a b : History α) : received (a ++ b) = received a ++ received b :=
  List.filterMap_append

theorem log_append (i : Nat) (a b : History α) : log i (a ++ b) = log i a ++ log i b :=
  List.filterMap_append

theorem entered_append (i : Nat) (a b : History α) :
    entered i (a ++ b) = entered i a ++ entered i b := by
  cases i with
  | zero => exact sent_append a b
  | succ i =>
    simp only [entered]
    rw [log_append, Log.puts_append]

theorem drawn_append (n i : Nat) (a b : History α) :
    drawn n i (a ++ b) = drawn n i a ++ drawn n i b := by
  unfold drawn
  split
  · rw [log_append, Log.taken_append]
  · exact received_append a b

@[simp] theorem log_nil (i : Nat) : log i ([] : History α) = [] := rfl

@[simp] theorem entered_nil (i : Nat) : entered i ([] : History α) = [] := by cases i <;> rfl

@[simp] theorem drawn_nil (n i : Nat) : drawn n i ([] : History α) = [] := by
  unfold drawn
  split <;> rfl

/-! One occurrence at a time. -/

@[simp] theorem log_asked (i : Nat) (action : Action α) (answer : Answer α) :
    log i [.asked action answer] = [] := rfl

@[simp] theorem log_worked (i j w : Nat) (f : Feat α) :
    log i [.worked j w f] = if j = i then [(w, f)] else [] := by
  by_cases h : j = i <;> simp [log, Occurrence.feat?, h]

@[simp] theorem log_ended (i j : Nat) : log i [(.ended j : Occurrence α)] = [] := rfl

@[simp] theorem entered_asked (i : Nat) (action : Action α) (answer : Answer α) :
    entered i [.asked action answer] =
      if i = 0 then (Occurrence.asked action answer).sent?.toList else [] := by
  cases i with
  | zero =>
    simp only [entered, sent, List.filterMap_cons, List.filterMap_nil, ↓reduceIte]
    cases (Occurrence.asked action answer).sent? <;> rfl
  | succ i => rfl

@[simp] theorem entered_worked (i j w : Nat) (f : Feat α) :
    entered i [.worked j w f] = if j + 1 = i then f.put?.toList else [] := by
  cases i with
  | zero => rfl
  | succ i =>
    simp only [entered, log_worked, Nat.add_right_cancel_iff]
    split
    · simp only [Log.puts, List.filterMap_cons, List.filterMap_nil]
      cases f.put? <;> rfl
    · rfl

@[simp] theorem entered_ended (i j : Nat) : entered i [(.ended j : Occurrence α)] = [] := by
  cases i <;> rfl

@[simp] theorem drawn_asked (n i : Nat) (action : Action α) (answer : Answer α) :
    drawn n i [.asked action answer] =
      if i < n then [] else (Occurrence.asked action answer).received?.toList := by
  unfold drawn
  split
  · rfl
  · simp only [received, List.filterMap_cons, List.filterMap_nil]
    cases (Occurrence.asked action answer).received? <;> rfl

@[simp] theorem drawn_worked (n i j w : Nat) (f : Feat α) :
    drawn n i [.worked j w f] = if j = i ∧ i < n then f.took?.toList else [] := by
  unfold drawn
  by_cases hi : i < n
  · by_cases hj : j = i
    · simp only [hi, hj, log_worked, ↓reduceIte, Log.taken, List.filterMap_cons, List.filterMap_nil,
        and_self]
      cases f.took? <;> rfl
    · simp [hi, hj, Log.taken]
  · simp [hi, received, Occurrence.received?]

@[simp] theorem drawn_ended (n i j : Nat) : drawn n i [(.ended j : Occurrence α)] = [] := by
  unfold drawn
  split <;> rfl

end History

/-! ### Runs -/

namespace Chain

variable (c : Chain σ α)

/-- What a move would show now, if it can be made. -/
def occurrence? : Move → Option (Occurrence α)
  | .poll i w => do
    let s ← c.spot? i
    let deed ← s.deed? c.cancelled w
    return .worked i w (s.feat deed)
  | .finish i => some (.ended i)

/-- The chain after a step, and what the step shows; a request can always be
made. -/
def advance? : Step α → Option (Chain σ α × Occurrence α)
  | .ask action => some ((c.act action).1, .asked action (c.act action).2)
  | .move m => do return (← c.step? m, ← c.occurrence? m)

/-- The chain after some steps, and their history, if each can be made in its
turn. -/
def replay : List (Step α) → Chain σ α → Option (Chain σ α × History α)
  | [], c => some (c, [])
  | step :: rest, c => do
    let (next, o) ← c.advance? step
    let (last, h) ← replay rest next
    return (last, o :: h)

theorem replay_eq (steps : List (Step α)) (c : Chain σ α) :
    replay steps c = replayWith advance? steps c := by
  induction steps generalizing c with
  | nil => rfl
  | cons step rest ih => simp only [replay, replayWith, ih]

theorem replay_cons {step : Step α} {rest : List (Step α)} {c last : Chain σ α} {h : History α}
    (run : replay (step :: rest) c = some (last, h)) :
    ∃ next o t, c.advance? step = some (next, o) ∧ replay rest next = some (last, t) ∧
      h = o :: t := by
  simp only [replay_eq] at run ⊢
  exact replayWith_cons run

theorem replay_append {first second : List (Step α)} {c middle last : Chain σ α}
    {h t : History α} (run : replay first c = some (middle, h))
    (more : replay second middle = some (last, t)) :
    replay (first ++ second) c = some (last, h ++ t) := by
  rw [replay_eq] at run more ⊢
  exact replayWith_append run more

/-- What every step preserves, every run preserves, whatever came before it. -/
theorem replay_invariant {P : History α → Chain σ α → Prop}
    (keep : ∀ h c step next o, P h c → c.advance? step = some (next, o) → P (h ++ [o]) next)
    {steps : List (Step α)} {c last : Chain σ α} {h t : History α} (start : P h c)
    (run : replay steps c = some (last, t)) : P (h ++ t) last := by
  rw [replay_eq] at run
  exact replayWith_invariant (fun _ => keep) (b := []) start run

end Chain

end DocSieve
