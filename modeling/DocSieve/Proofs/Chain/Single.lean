import DocSieve.Proofs.Chain.Energy
import DocSieve.Proofs.Metrics.Board
import Mathlib.Data.List.Basic

/-!
# Stages of one worker

A stage of one worker has at most one move: its worker does something, or the stage
ends. What such a turn changes is an `Effect`: it touches the two channels of the stage,
its crew, the state that all stages share, and the board. The effects of two stages that
leave the shared state to each other can be had in either order, as long as the channel
between them lets them (`Chain.turns_comm`), and neither keeps the other from its turn
(`Chain.step?_apply`).

Key definitions: `Turn`, `Spot.turn?`, `Effect`, `Chain.apply`, `Stage.Independent`.
Key theorems: `Spot.turn?_kept`, `Chain.turn_of_step?`, `Chain.step?_apply`, `Chain.turns_comm`.
-/

namespace DocSieve

variable {σ α : Type}

/-! ### Stages that do not meddle -/

/-- Two stages whose transforms can be run in either order: what they make of their
items and of the shared state is the same. -/
def Stage.Independent (a b : Stage σ α) : Prop :=
  ∀ shared x y,
    (b.transform (a.transform shared x).1 y).2 = (b.transform shared y).2 ∧
    (a.transform (b.transform shared y).1 x).2 = (a.transform shared x).2 ∧
    (b.transform (a.transform shared x).1 y).1 = (a.transform (b.transform shared y).1 x).1

theorem Stage.Independent.symm {a b : Stage σ α} (h : a.Independent b) : b.Independent a :=
  fun shared x y => ⟨(h shared y x).2.1, (h shared y x).1, (h shared y x).2.2.symm⟩

/-- A stage that only makes something of its items: it neither reads nor changes the
shared state. -/
def Stage.Pure (stage : Stage σ α) : Prop :=
  ∃ f : α → Outcome α, ∀ shared item, stage.transform shared item = (shared, f item)

theorem Stage.Pure.independent {a b : Stage σ α} (ha : a.Pure) (hb : b.Pure) :
    a.Independent b := by
  obtain ⟨f, hf⟩ := ha
  obtain ⟨g, hg⟩ := hb
  intro shared x y
  simp only [hf, hg, and_self]

theorem halving_pure (name : String) (workers slots : Nat) : (halving name workers slots).Pure :=
  ⟨_, fun _ _ => rfl⟩

/-! ### Turns -/

/-- What a stage of one worker does in one step. -/
inductive Turn (α : Type)
  | work (deed : Deed α)
  | finish

namespace Turn

/-- The move in which a stage has its turn. -/
def move (i : Nat) : Turn α → Move
  | .work _ => .poll i 0
  | .finish => .finish i

/-- What a turn makes of the channel that the stage takes from. -/
def onInlet : Turn α → Channel α → Channel α
  | .work .leave, c => c.dropReceiver
  | .work (.take _), c => { c with items := c.items.tail }
  | _, c => c

/-- What a turn makes of the channel that the stage puts into. -/
def onOutlet : Turn α → Channel α → Channel α
  | .work (.put value), c => c.push value
  | .work .leave, c | .finish, c => c.dropSender
  | _, c => c

/-- What a turn makes of the state that all stages share. -/
def onShared (stage : Stage σ α) : Turn α → σ → σ
  | .work (.transform item), shared => (stage.transform shared item).1
  | _, shared => shared

theorem prefix_onOutlet (t : Turn α) (c : Channel α) : c.items <+: (t.onOutlet c).items := by
  rcases t with ⟨_ | _ | _ | _⟩ | _
  case work.put value => exact List.prefix_append _ _
  all_goals exact List.prefix_rfl

theorem onInlet_keeps {t : Turn α} (stays : t ≠ .work .leave) (c : Channel α) :
    (t.onInlet c).hasReceiver = c.hasReceiver ∧
      (c.hasRoom = true → (t.onInlet c).hasRoom = true) := by
  rcases t with ⟨_ | _ | _ | _⟩ | _
  case work.leave => exact absurd rfl stays
  case work.take item =>
    refine ⟨rfl, fun room => ?_⟩
    simp only [onInlet, Channel.hasRoom, List.length_tail, decide_eq_true_eq] at room ⊢
    omega
  all_goals exact ⟨rfl, id⟩

/-- Between two stages it does not matter which one has its turn first, unless the second
takes what was not there, or leaves. -/
theorem onInlet_onOutlet {t t' : Turn α} {c : Channel α} (stays : t' ≠ .work .leave)
    (there : ∀ item, t' = .work (.take item) → c.items ≠ []) :
    t'.onInlet (t.onOutlet c) = t.onOutlet (t'.onInlet c) := by
  rcases t' with ⟨_ | item | _ | _⟩ | _
  case work.leave => exact absurd rfl stays
  case work.take =>
    rcases t with ⟨_ | _ | _ | value⟩ | _
    case work.put =>
      simp only [onInlet, onOutlet, Channel.push, List.tail_append_of_ne_nil (there item rfl)]
    all_goals rfl
  all_goals rfl

end Turn

namespace Spot

variable {s s' : Spot σ α} {cancelled : Bool} {t : Turn α}

/-- What a stage of one worker would do now, if it can go on. -/
def turn? (s : Spot σ α) (cancelled : Bool) : Option (Turn α) :=
  if s.canFinish then some .finish else (s.deed? cancelled 0).map .work

/-- The spot after a turn. -/
def after (s : Spot σ α) (cancelled : Bool) : Turn α → Spot σ α
  | .work deed => s.perform 0 deed
  | .finish => s.finish cancelled

theorem deed?_of_turn? {deed : Deed α} (turn : s.turn? cancelled = some (.work deed)) :
    s.deed? cancelled 0 = some deed := by
  unfold turn? at turn
  split at turn
  · cases turn
  · simpa using turn

theorem does_of_turn? {deed : Deed α} (turn : s.turn? cancelled = some (.work deed)) :
    s.Does cancelled 0 deed :=
  does_of_deed? (deed?_of_turn? turn)

theorem canFinish_of_turn? (turn : s.turn? cancelled = some .finish) : s.canFinish = true := by
  unfold turn? at turn
  split at turn
  · assumption
  · simp at turn

theorem deed?_of_allGone (gone : s.crew.allGone = true) (w : Nat) :
    s.deed? cancelled w = none := by
  cases here : s.crew.workers[w]? with
  | none => simp [deed?, here]
  | some worker =>
    obtain rfl := Crew.allGone_iff.mp gone worker (List.mem_of_getElem? here)
    simp [deed?, deedOf?, here]

theorem canFinish_of_deed? {w : Nat} {deed : Deed α} (does : s.deed? cancelled w = some deed) :
    s.canFinish = false := by
  cases gone : s.crew.allGone with
  | false => rw [canFinish, gone, Bool.false_and]
  | true =>
    rw [deed?_of_allGone gone] at does
    cases does

theorem turn?_of_ended (gone : s.crew.allGone = true) (ended : s.crew.summary ≠ none) :
    s.turn? cancelled = none := by
  have cannot : s.canFinish = false := by
    rw [canFinish, Option.isNone_eq_false_iff.mpr (Option.isSome_iff_ne_none.mpr ended),
      Bool.and_false]
  rw [turn?, cannot, if_neg Bool.false_ne_true, deed?_of_allGone gone, Option.map_none]

/-- A worker does what it would have done, whatever happens around its stage, as long as
the outlet is left open and its room free, and the inlet is only put into; who would leave
needs the inlet as it is. -/
theorem deed?_kept {w : Nat} {deed : Deed α} (does : s.deed? cancelled w = some deed)
    (crew : s'.crew = s.crew) (receiver : s'.outlet.hasReceiver = s.outlet.hasReceiver)
    (room : s.outlet.hasRoom = true → s'.outlet.hasRoom = true)
    (inlet : s'.inlet = s.inlet ∨ deed ≠ .leave ∧ s.inlet.items <+: s'.inlet.items) :
    s'.deed? cancelled w = some deed := by
  have hstop : (cancelled || !s.outlet.hasReceiver) = (cancelled || !s'.outlet.hasReceiver) := by
    rw [receiver]
  cases does_of_deed? does with
  | @take item rest idle going items =>
    obtain ⟨rest', items'⟩ : ∃ rest', s'.inlet.items = item :: rest' := by
      rcases inlet with same | ⟨-, more, prefixed⟩
      · exact ⟨rest, by rw [same, items]⟩
      · exact ⟨rest ++ more, by rw [← prefixed, items, List.cons_append]⟩
    rw [stopped, hstop] at going
    simp [deed?, deedOf?, crew, idle, going, items']
  | transform busy => simp [deed?, deedOf?, crew, busy]
  | put holding going free =>
    rw [stopped, hstop] at going
    simp [deed?, deedOf?, crew, holding, going, room free]
  | @leave worker here reason =>
    have same : s'.inlet = s.inlet := inlet.resolve_right fun kept => kept.1 rfl
    rw [stopped, hstop] at reason
    rcases reason with ⟨rfl, stop | ⟨items, sender⟩⟩ | ⟨⟨value, rfl⟩, stop⟩
    · simp [deed?, deedOf?, crew, here, stop]
    · simp [deed?, deedOf?, crew, here, same, items, sender]
    · simp [deed?, deedOf?, crew, here, stop]

/-- So does a stage. -/
theorem turn?_kept (turn : s.turn? cancelled = some t) (crew : s'.crew = s.crew)
    (receiver : s'.outlet.hasReceiver = s.outlet.hasReceiver)
    (room : s.outlet.hasRoom = true → s'.outlet.hasRoom = true)
    (inlet : s'.inlet = s.inlet ∨ t ≠ .work .leave ∧ s.inlet.items <+: s'.inlet.items) :
    s'.turn? cancelled = some t := by
  have hcan : s'.canFinish = s.canFinish := by rw [canFinish, canFinish, crew]
  cases t with
  | finish => rw [turn?, hcan, canFinish_of_turn? turn, if_pos rfl]
  | work deed =>
    have does := deed?_of_turn? turn
    have kept := deed?_kept does crew receiver room
      (inlet.imp_right fun kept => ⟨fun leaves => kept.1 (congrArg _ leaves), kept.2⟩)
    rw [turn?, hcan, canFinish_of_deed? does, if_neg Bool.false_ne_true, kept, Option.map_some]

end Spot

/-! ### Effects -/

/-- What a stage changes in one step. -/
structure Effect (σ α : Type) where
  inlet : Channel α → Channel α
  crew : Crew σ α
  outlet : Channel α → Channel α
  shared : σ → σ
  /-- What is counted, if anything. -/
  count? : Option (StageStats → StageStats)

namespace Effect

/-- What an effect makes of the board. -/
def board (e : Effect σ α) (board : Board) : Board :=
  match e.count? with
  | some count => board.update e.crew.stage.name count
  | none => board

end Effect

namespace Spot

variable {s s' : Spot σ α} {cancelled : Bool} {t : Turn α}

/-- What is counted in a turn. -/
def count? (s : Spot σ α) : Turn α → Option (StageStats → StageStats)
  | .work (.take _) => some (·.take)
  | .work (.transform item) =>
    match (s.crew.stage.transform s.shared item).2 with
    | .done _ => none
    | .failed | .crashed => some (·.fail)
  | .work (.put _) => some (·.deliver 0.0)
  | _ => none

/-- What a turn changes. -/
def effect (s : Spot σ α) (cancelled : Bool) (t : Turn α) : Effect σ α where
  inlet := t.onInlet
  crew := (s.after cancelled t).crew
  outlet := t.onOutlet
  shared := t.onShared s.crew.stage
  count? := s.count? t

theorem after_eq (t : Turn α) :
    s.after cancelled t =
      ⟨(s.effect cancelled t).inlet s.inlet, (s.effect cancelled t).crew,
        (s.effect cancelled t).outlet s.outlet, (s.effect cancelled t).shared s.shared,
        (s.effect cancelled t).board s.board⟩ := by
  rcases t with ⟨_ | item | item | value⟩ | _
  case work.transform =>
    cases outcome : (s.crew.stage.transform s.shared item).2 <;>
      simp [after, effect, perform, transform, outcome, Turn.onInlet, Turn.onOutlet,
        Turn.onShared, Effect.board, count?, Crew.setWorker, Crew.count, name]
  all_goals rfl

/-- The effect of a turn is that of any stage with the same crew, if the transform comes
to the same. -/
theorem effect_congr (crew : s'.crew = s.crew)
    (outcome : ∀ item, t = .work (.transform item) →
      (s.crew.stage.transform s'.shared item).2 = (s.crew.stage.transform s.shared item).2) :
    s'.effect cancelled t = s.effect cancelled t := by
  rcases t with ⟨_ | item | item | value⟩ | _
  case work.transform =>
    have same := outcome item rfl
    cases made : (s.crew.stage.transform s.shared item).2 <;>
      simp [effect, after, perform, transform, count?, crew, same, made]
  all_goals simp [effect, after, perform, leave, take, put, finish, count?, crew]

theorem count?_comm {t' : Turn α} {f g : StageStats → StageStats} (hf : s.count? t = some f)
    (hg : s'.count? t' = some g) (stats : StageStats) : f (g stats) = g (f stats) := by
  have kinds {s : Spot σ α} {t : Turn α} {f : StageStats → StageStats}
      (h : s.count? t = some f) : f = (·.take) ∨ f = (·.fail) ∨ f = (·.deliver 0.0) := by
    unfold count? at h
    split at h
    · exact .inl (Option.some.inj h).symm
    · split at h
      · cases h
      · exact .inr (.inl (Option.some.inj h).symm)
      · exact .inr (.inl (Option.some.inj h).symm)
    · exact .inr (.inr (Option.some.inj h).symm)
    · cases h
  rcases kinds hf with rfl | rfl | rfl <;> rcases kinds hg with rfl | rfl | rfl <;> rfl

end Spot

/-! ### Chains -/

namespace Chain

variable {c next : Chain σ α} {i j : Nat} {s s' : Spot σ α} {t t' : Turn α} {e e' : Effect σ α}

/-- The chain after an effect of one stage. -/
def apply (c : Chain σ α) (i : Nat) (e : Effect σ α) : Chain σ α where
  channels := (c.channels.modify i e.inlet).modify (i + 1) e.outlet
  crews := c.crews.set i e.crew
  shared := e.shared c.shared
  board := e.board c.board
  cancelled := c.cancelled

theorem modify_of_getElem? {β : Type} {l : List β} {k : Nat} {x : β} (here : l[k]? = some x)
    (f : β → β) : l.modify k f = l.set k (f x) := by
  rw [List.modify_eq_set_getElem?, here]
  rfl

theorem putSpot_after (spot : c.spot? i = some s) (t : Turn α) :
    c.putSpot i (s.after c.cancelled t) = c.apply i (s.effect c.cancelled t) := by
  obtain ⟨hin, -, hout, hshared, hboard⟩ := spot?_eq_some.mp spot
  have hout' : (c.channels.set i ((s.effect c.cancelled t).inlet s.inlet))[i + 1]? =
      some s.outlet := by
    rw [List.getElem?_set_ne (by omega)]
    exact hout
  rw [Spot.after_eq t]
  unfold putSpot apply
  rw [modify_of_getElem? hin, modify_of_getElem? hout', hshared, hboard]

theorem step?_of_turn (spot : c.spot? i = some s) (turn : s.turn? c.cancelled = some t) :
    c.step? (t.move i) = some (c.apply i (s.effect c.cancelled t)) := by
  rw [← putSpot_after spot t]
  cases t with
  | work deed => simp [Turn.move, step?, spot, Spot.deed?_of_turn? turn, Spot.after]
  | finish => simp [Turn.move, step?, spot, Spot.canFinish_of_turn? turn, Spot.after]

theorem turn_of_step? (single : ∀ i s, c.spot? i = some s → s.crew.workers.length = 1)
    {m : Move} (step : c.step? m = some next) :
    ∃ i s t, c.spot? i = some s ∧ s.turn? c.cancelled = some t ∧ m = t.move i ∧
      next = c.apply i (s.effect c.cancelled t) := by
  cases m with
  | poll i w =>
    simp only [step?, Option.bind_eq_bind, Option.bind_eq_some_iff, Option.pure_def,
      Option.some.injEq] at step
    obtain ⟨s, spot, deed, does, rfl⟩ := step
    obtain rfl : w = 0 := by
      have alone := single i s spot
      simp only [Spot.deed?, Option.bind_eq_some_iff] at does
      obtain ⟨worker, here, -⟩ := does
      have := (List.getElem?_eq_some_iff.mp here).1
      omega
    have turn : s.turn? c.cancelled = some (.work deed) := by
      unfold Spot.turn?
      rw [Spot.canFinish_of_deed? does, if_neg Bool.false_ne_true, does, Option.map_some]
    exact ⟨i, s, .work deed, spot, turn, rfl, putSpot_after spot (.work deed)⟩
  | finish i =>
    simp only [step?, Option.bind_eq_bind, Option.bind_eq_some_iff,
      Option.ite_none_right_eq_some, Option.some.injEq] at step
    obtain ⟨s, spot, can, rfl⟩ := step
    have turn : s.turn? c.cancelled = some .finish := if_pos can
    exact ⟨i, s, .finish, spot, turn, rfl, putSpot_after spot .finish⟩

theorem spot?_apply (apart : i ≠ j) (spot : c.spot? j = some s) :
    (c.apply i e).spot? j = some
      ⟨if i + 1 = j then e.outlet s.inlet else s.inlet, s.crew,
        if i = j + 1 then e.inlet s.outlet else s.outlet, e.shared c.shared, e.board c.board⟩ := by
  obtain ⟨hin, hcrew, hout, -, -⟩ := spot?_eq_some.mp spot
  refine spot?_eq_some.mpr ⟨?_, ?_, ?_, rfl, rfl⟩
  · simp [apply, List.getElem?_modify, hin, apart]
  · simpa [apply, apart] using hcrew
  · simp [apply, List.getElem?_modify, hout, apart]

/-- Changes at two pairs of neighbouring places can be made in either order, if those
made at the same place can. -/
theorem modify_comm {β : Type} {l : List β} {f g f' g' : β → β} (apart : i ≠ j)
    (right : i + 1 = j → ∀ x, l[j]? = some x → f' (g x) = g (f' x))
    (left : j + 1 = i → ∀ x, l[i]? = some x → g' (f x) = f (g' x)) :
    (((l.modify i f).modify (i + 1) g).modify j f').modify (j + 1) g' =
      (((l.modify j f').modify (j + 1) g').modify i f).modify (i + 1) g := by
  refine List.ext_getElem? fun k => ?_
  simp only [List.getElem?_modify]
  cases here : l[k]? with
  | none => rfl
  | some x =>
    have hright : i + 1 = k → j = k → f' (g x) = g (f' x) := by
      rintro next rfl
      exact right next x here
    have hleft : j + 1 = k → i = k → g' (f x) = f (g' x) := by
      rintro next rfl
      exact left next x here
    simp only [Option.map_eq_map, Option.map_some, Option.some.injEq]
    split_ifs
    all_goals first | rfl | omega | exact hright ‹_› ‹_› | exact hleft ‹_› ‹_›

/-- Effects of two stages on the board can be had in either order. -/
theorem board_comm (count : ∀ f g, e.count? = some f → e'.count? = some g →
    ∀ stats, f (g stats) = g (f stats)) (board : Board) :
    e'.board (e.board board) = e.board (e'.board board) := by
  unfold Effect.board
  cases hf : e.count? with
  | none => rfl
  | some f =>
    cases hg : e'.count? with
    | none => rfl
    | some g => exact Board.update_comm fun _ => count f g hf hg

/-- Effects of two stages can be had in either order, if that is so for the channel
between them, for the shared state and for the board. -/
theorem apply_comm (apart : i ≠ j)
    (right : i + 1 = j → ∀ x, c.channels[j]? = some x →
      e'.inlet (e.outlet x) = e.outlet (e'.inlet x))
    (left : j + 1 = i → ∀ x, c.channels[i]? = some x →
      e'.outlet (e.inlet x) = e.inlet (e'.outlet x))
    (shared : e'.shared (e.shared c.shared) = e.shared (e'.shared c.shared))
    (board : e'.board (e.board c.board) = e.board (e'.board c.board)) :
    (c.apply i e).apply j e' = (c.apply j e').apply i e := by
  unfold apply
  dsimp only
  rw [modify_comm apart right left, List.set_comm _ _ apart, shared, board]

/-! ### Two turns -/

/-- What an independent stage makes of an item does not depend on the turn of another. -/
theorem outcome_onShared {a b : Stage σ α} (indep : a.Independent b) (t : Turn α) (shared : σ)
    (item : α) : (b.transform (t.onShared a shared) item).2 = (b.transform shared item).2 := by
  rcases t with ⟨_ | _ | x | _⟩ | _
  case work.transform => exact (indep shared x item).1
  all_goals rfl

theorem onShared_comm {a b : Stage σ α} (indep : a.Independent b) (t t' : Turn α) (shared : σ) :
    t'.onShared b (t.onShared a shared) = t.onShared a (t'.onShared b shared) := by
  rcases t with ⟨_ | _ | x | _⟩ | _
  case work.transform =>
    rcases t' with ⟨_ | _ | y | _⟩ | _
    case work.transform => exact (indep shared x y).2.2
    all_goals rfl
  all_goals rfl

/-- **A stage that has its turn does not keep another from its own**, nor does it change
what that turn comes to, unless one of them leaves the channel between them. -/
theorem step?_apply (apart : i ≠ j) (spot' : c.spot? j = some s')
    (turn : s'.turn? c.cancelled = some t') (indep : s.crew.stage.Independent s'.crew.stage)
    (right : i + 1 = j → t' ≠ .work .leave) (left : j + 1 = i → t ≠ .work .leave) :
    (c.apply i (s.effect c.cancelled t)).step? (t'.move j) =
      some ((c.apply i (s.effect c.cancelled t)).apply j (s'.effect c.cancelled t')) := by
  have hspot := spot?_apply (e := s.effect c.cancelled t) apart spot'
  obtain ⟨-, -, -, hshared, -⟩ := spot?_eq_some.mp spot'
  set seen : Spot σ α := ⟨_, _, _, _, _⟩ with hseen
  have keeps : seen.outlet.hasReceiver = s'.outlet.hasReceiver ∧
      (s'.outlet.hasRoom = true → seen.outlet.hasRoom = true) := by
    rw [hseen]
    dsimp only
    split
    case isTrue next => exact Turn.onInlet_keeps (left next.symm) _
    case isFalse => exact ⟨rfl, id⟩
  have hinlet : seen.inlet = s'.inlet ∨
      t' ≠ .work .leave ∧ s'.inlet.items <+: seen.inlet.items := by
    rw [hseen]
    dsimp only
    split
    case isTrue next => exact .inr ⟨right next, t.prefix_onOutlet _⟩
    case isFalse => exact .inl rfl
  have hturn : seen.turn? c.cancelled = some t' :=
    Spot.turn?_kept turn rfl keeps.1 keeps.2 hinlet
  have heffect : seen.effect c.cancelled t' = s'.effect c.cancelled t' :=
    Spot.effect_congr rfl fun item _ => hshared ▸ outcome_onShared indep t c.shared item
  rw [← heffect]
  exact step?_of_turn hspot hturn

/-- **Two turns of different stages can be had in either order.** -/
theorem turns_comm (apart : i ≠ j) (spot : c.spot? i = some s) (spot' : c.spot? j = some s')
    (turn : s.turn? c.cancelled = some t) (turn' : s'.turn? c.cancelled = some t')
    (indep : s.crew.stage.Independent s'.crew.stage)
    (right : i + 1 = j → t' ≠ .work .leave) (left : j + 1 = i → t ≠ .work .leave) :
    (c.apply i (s.effect c.cancelled t)).apply j (s'.effect c.cancelled t') =
      (c.apply j (s'.effect c.cancelled t')).apply i (s.effect c.cancelled t) := by
  -- who takes an item now finds it in the channel now
  have there {i : Nat} {s : Spot σ α} {t : Turn α} (spot : c.spot? i = some s)
      (turn : s.turn? c.cancelled = some t) (x : Channel α) (place : c.channels[i]? = some x)
      (item : α) (takes : t = .work (.take item)) : x.items ≠ [] := by
    subst takes
    obtain rfl := Option.some.inj (place.symm.trans (spot?_eq_some.mp spot).1)
    cases Spot.does_of_turn? turn with
    | take _ _ items => simp [items]
  refine apply_comm apart (fun next x place => ?_) (fun next x place => ?_) ?_ ?_
  · exact Turn.onInlet_onOutlet (right next) (there spot' turn' x place)
  · exact (Turn.onInlet_onOutlet (left next) (there spot turn x place)).symm
  · exact onShared_comm indep t t' c.shared
  · exact board_comm (fun f g hf hg => Spot.count?_comm hf hg) c.board

end Chain

end DocSieve
