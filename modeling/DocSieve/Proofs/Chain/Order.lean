import DocSieve.Proofs.Chain.Composition
import DocSieve.Proofs.Chain.Settled

/-!
# One worker keeps the order

A worker deals with one item after the other. If it is alone, the items it has
transformed are those the stage took, in order, up to the one it works on; and the
values put out are those it made, in order, up to the one it keeps or left with.
So the stage puts out a first part of what its transform makes of what came in.

If every stage of a chain has one worker, this goes on from stage to stage, and
what is received is at any time a first part of what the composed transforms make
of what was sent. Nothing that is asked can change this: neither a cancel nor a
drop at any time, nor a close.

Key definition: `Scene.InTurn`.
Key theorems: `Scene.Next.inTurn`, `Chain.puts_prefix`, `Chain.entered_prefix`,
`Chain.order_kept`.
-/

namespace DocSieve

open History

variable {σ α : Type}

/-- The value that a worker is about to put out. -/
def Worker.held? : Worker α → Option α
  | .holding value => some value
  | _ => none

namespace Scene

variable {x x' : Scene σ α} {worker : Worker α} {left : List α}

/-- A lone worker, and what it made and did not put out. -/
structure InTurn (x : Scene σ α) (worker : Worker α) (left : List α) : Prop where
  alone : x.crew.workers = [worker]
  /-- What was taken was transformed, or is being transformed. -/
  taken : Log.taken x.log = Log.ran x.log ++ worker.running?.toList
  /-- What was made was put out, in order, up to what is left. -/
  made : Log.made x.log = Log.puts x.log ++ left
  /-- Only one who is gone may have left with a value. -/
  kept : worker ≠ .gone → left = worker.held?.toList

namespace InTurn

theorem eq_of_getElem? (h : x.InTurn worker left) {w : Nat} {worker' : Worker α}
    (here : x.crew.workers[w]? = some worker') : w = 0 ∧ worker' = worker := by
  rw [h.alone, List.getElem?_singleton] at here
  split at here
  · exact ⟨‹_›, (Option.some.inj here).symm⟩
  · cases here

/-- The lone worker does something: what was in its hand and what it takes it has
transformed or is transforming, and what it kept and what it makes it has put out
or keeps. -/
theorem next (h : x.InTurn worker left) {w : Nat} {new : Worker α} {f : Feat α} {left' : List α}
    (here : x.crew.workers[w]? = some worker)
    (workers : x'.crew.workers = x.crew.workers.set w new) (log : x'.log = x.log ++ [(w, f)])
    (taken : worker.running?.toList ++ f.took?.toList = f.ran?.toList ++ new.running?.toList)
    (made : left ++ f.made?.toList = f.put?.toList ++ left')
    (kept : new ≠ .gone → left' = new.held?.toList) : x'.InTurn new left' := by
  obtain ⟨rfl, -⟩ := h.eq_of_getElem? here
  refine ⟨?_, ?_, ?_, kept⟩
  · rw [workers, h.alone, List.set_cons_zero]
  · rw [log, Log.taken_concat, Log.ran_concat, h.taken, List.append_assoc, taken, List.append_assoc]
  · rw [log, Log.made_concat, Log.puts_concat, h.made, List.append_assoc, made, List.append_assoc]

end InTurn

/-- **A lone worker goes on in turn**, whatever happens around it. -/
theorem Next.inTurn (n : x.Next x') (h : x.InTurn worker left) :
    ∃ worker' left', x'.InTurn worker' left' := by
  cases n with
  | @take w item rest idle =>
    obtain ⟨-, rfl⟩ := h.eq_of_getElem? idle
    obtain rfl := h.kept (by simp)
    exact ⟨.busy item, [], h.next idle rfl rfl rfl rfl fun _ => rfl⟩
  | @make w item value busy =>
    obtain ⟨-, rfl⟩ := h.eq_of_getElem? busy
    obtain rfl := h.kept (by simp)
    exact ⟨.holding value, [value], h.next busy rfl rfl rfl rfl fun _ => rfl⟩
  | @fail w item busy =>
    obtain ⟨-, rfl⟩ := h.eq_of_getElem? busy
    obtain rfl := h.kept (by simp)
    exact ⟨.idle, [], h.next busy rfl rfl rfl rfl fun _ => rfl⟩
  | @put w value holding =>
    obtain ⟨-, rfl⟩ := h.eq_of_getElem? holding
    obtain rfl := h.kept (by simp)
    exact ⟨.idle, [], h.next holding rfl rfl rfl rfl fun _ => rfl⟩
  | @leave w worker' here reason =>
    obtain ⟨-, rfl⟩ := h.eq_of_getElem? here
    have idle : worker'.running? = none := by
      rcases reason with ⟨rfl, -⟩ | ⟨⟨value, rfl⟩, -⟩ <;> rfl
    refine ⟨.gone, left, h.next here rfl rfl ?_ (List.append_nil left) fun hne => absurd rfl hne⟩
    rw [idle]
    rfl
  | _ => exact ⟨worker, left, h.alone, h.taken, h.made, h.kept⟩

/-- What was made is what the transform gives for the items that it ran on. -/
theorem Next.made_eq_filterMap {f : α → Option α} (n : x.Next x')
    (computes : x.crew.stage.Computes f) (h : Log.made x.log = (Log.ran x.log).filterMap f) :
    x'.crew.stage.Computes f ∧ Log.made x'.log = (Log.ran x'.log).filterMap f := by
  cases n with
  | take => exact ⟨computes, by simpa [Feat.made?, Feat.ran?] using h⟩
  | make _ yields =>
    exact ⟨computes, by simp [Feat.made?, Feat.ran?, h, computes.eq_of_yields yields]⟩
  | fail _ yields =>
    exact ⟨computes, by simp [Feat.made?, Feat.ran?, h, computes.eq_of_yields yields]⟩
  | put => exact ⟨computes, by simpa [Feat.made?, Feat.ran?] using h⟩
  | leave => exact ⟨computes, by simpa [Feat.made?, Feat.ran?] using h⟩
  | _ => exact ⟨computes, h⟩

end Scene

namespace Chain

variable {c next first : Chain σ α} {h : History α} {slots i : Nat} {stages : List (Stage σ α)}
  {stage : Stage σ α} {fs : List (α → Option α)} {f : α → Option α} {shared : σ}
  {steps : List (Step α)}

theorem inTurn_start {s : Spot σ α} (begun : start slots stages shared = .ok first)
    (here : stages[i]? = some stage) (single : stage.workers = 1) (hs : first.spot? i = some s) :
    (first.scene [] i s).InTurn .idle [] := by
  obtain ⟨stage', before, senders, receivers, hstage', -, -, hscene⟩ := scene_start begun hs
  obtain rfl := Option.some.inj (here.symm.trans hstage')
  rw [hscene]
  refine ⟨?_, rfl, rfl, fun _ => rfl⟩
  show (Crew.start stage).workers = [.idle]
  rw [Crew.start, single]
  rfl

theorem inTurn_of_replay {s : Spot σ α} (begun : start slots stages shared = .ok first)
    (run : replay steps first = some (c, h)) (here : stages[i]? = some stage)
    (single : stage.workers = 1) (hs : c.spot? i = some s) :
    ∃ worker left, (c.scene h i s).InTurn worker left :=
  scene_invariant (P := fun x => ∃ worker left, x.InTurn worker left)
    (fun _ _ _ ⟨_, _, hturn⟩ n => n.inTurn hturn) (sound_start begun)
    (fun _ hs => ⟨.idle, [], inTurn_start begun here single hs⟩) run hs

theorem ran_prefix_entered (begun : start slots stages shared = .ok first)
    (run : replay steps first = some (c, h)) (here : stages[i]? = some stage)
    (single : stage.workers = 1) : Log.ran (log i h) <+: entered i h := by
  obtain ⟨s, hs, -⟩ := exists_spot_of_replay begun run here
  obtain ⟨worker, left, hturn⟩ := inTurn_of_replay begun run here single hs
  have hran : Log.ran (log i h) <+: Log.taken (log i h) := ⟨_, hturn.taken.symm⟩
  exact hran.trans ((sound_of_replay begun run).stage hs).inlet.first

theorem puts_prefix_made (begun : start slots stages shared = .ok first)
    (run : replay steps first = some (c, h)) (here : stages[i]? = some stage)
    (single : stage.workers = 1) : entered (i + 1) h <+: Log.made (log i h) := by
  obtain ⟨s, hs, -⟩ := exists_spot_of_replay begun run here
  obtain ⟨worker, left, hturn⟩ := inTurn_of_replay begun run here single hs
  exact ⟨left, hturn.made.symm⟩

theorem made_eq_filterMap (begun : start slots stages shared = .ok first)
    (run : replay steps first = some (c, h)) (here : stages[i]? = some stage)
    (computes : stage.Computes f) : Log.made (log i h) = (Log.ran (log i h)).filterMap f := by
  obtain ⟨s, hs, -⟩ := exists_spot_of_replay begun run here
  have hrun := scene_invariant
    (P := fun x => x.crew.stage.Computes f ∧ Log.made x.log = (Log.ran x.log).filterMap f)
    (fun x x' _ ⟨hcomputes, hmade⟩ n => n.made_eq_filterMap hcomputes hmade) (sound_start begun)
    (fun s hs => ?_) run hs
  · exact hrun.2
  · obtain ⟨stage', before, senders, receivers, hstage', -, -, hscene⟩ := scene_start begun hs
    obtain rfl := Option.some.inj (here.symm.trans hstage')
    rw [hscene]
    exact ⟨computes, rfl⟩

/-- **A stage with one worker keeps the order.** What it has put out is a first part
of what its transform makes of what came in. -/
theorem puts_prefix (begun : start slots stages shared = .ok first)
    (run : replay steps first = some (c, h)) (here : stages[i]? = some stage)
    (single : stage.workers = 1) (computes : stage.Computes f) :
    entered (i + 1) h <+: (entered i h).filterMap f := by
  have hputs := puts_prefix_made begun run here single
  rw [made_eq_filterMap begun run here computes] at hputs
  exact hputs.trans ((ran_prefix_entered begun run here single).filterMap f)

/-- What came into channel `i` of a chain whose first stages have one worker each is a
first part of what the first `i` transforms make of what was sent, whatever the
later stages do. -/
theorem entered_prefix_of_initial (begun : start slots stages shared = .ok first)
    (run : replay steps first = some (c, h)) {initial : List (Stage σ α)}
    (part : initial <+: stages) (computes : List.Forall₂ Stage.Computes initial fs)
    (single : ∀ stage ∈ initial, stage.workers = 1) (hi : i ≤ initial.length) :
    entered i h <+: (sent h).filterMap (composed (fs.take i)) := by
  have hfs := computes.length_eq
  induction i with
  | zero => simp [entered, composed]
  | succ i ih =>
    have here : stages[i]? = some initial[i] := by
      obtain ⟨rest, rfl⟩ := part
      rw [List.getElem?_append_left hi, List.getElem?_eq_getElem hi]
    have hnext := puts_prefix begun run here (single initial[i] (List.getElem_mem hi))
      (computes.get hi (by omega))
    rw [← filterMap_composed (sent h) (by omega)]
    exact hnext.trans ((ih (by omega)).filterMap _)

theorem entered_prefix (begun : start slots stages shared = .ok first)
    (run : replay steps first = some (c, h)) (computes : List.Forall₂ Stage.Computes stages fs)
    (single : ∀ stage ∈ stages, stage.workers = 1) (hi : i ≤ stages.length) :
    entered i h <+: (sent h).filterMap (composed (fs.take i)) :=
  entered_prefix_of_initial begun run List.prefix_rfl computes single hi

/-! ### The last channel -/

theorem carries_of_no_stage {o : Occurrence α} (step : c.Advance o next) (empty : c.crews = [])
    {channel : Channel α} (alone : c.channels = [channel])
    (carries : channel.Carries (sent h) (received h)) :
    next.crews = [] ∧ ∃ channel', next.channels = [channel'] ∧
      channel'.Carries (sent (h ++ [o])) (received (h ++ [o])) := by
  have hexit : c.exit = 0 := by simp [exit, alone]
  rw [sent_append, received_append]
  cases step with
  | sent item place _ receiver =>
    obtain rfl : channel = _ := by simpa [alone] using place
    refine ⟨empty, channel.push item, by simp [setChannel, alone], ?_⟩
    simpa [sent, received, Occurrence.sent?, Occurrence.received?] using carries.push receiver item
  | received place _ items =>
    obtain rfl : channel = _ := by simpa [alone, hexit] using place
    refine ⟨empty, _, by simp [setChannel, alone, hexit]; rfl, ?_⟩
    simpa [sent, received, Occurrence.sent?, Occurrence.received?] using carries.pop items
  | closed place =>
    obtain rfl : channel = _ := by simpa [alone] using place
    refine ⟨empty, channel.dropSender, by simp [setChannel, alone], ?_⟩
    simpa [sent, received, Occurrence.sent?, Occurrence.received?] using carries.dropSender
  | dropped place =>
    obtain rfl : channel = _ := by simpa [alone, hexit] using place
    refine ⟨empty, channel.dropReceiver, by simp [setChannel, alone, hexit], ?_⟩
    simpa [sent, received, Occurrence.sent?, Occurrence.received?] using carries.dropReceiver
  | cancelled =>
    refine ⟨empty, channel, alone, ?_⟩
    simpa [sent, received, Occurrence.sent?, Occurrence.received?] using carries
  | unchanged _ _ hsent hreceived =>
    refine ⟨empty, channel, alone, ?_⟩
    simpa [sent, received, hsent, hreceived] using carries
  | worked spot => simp [spot?_eq_some, empty] at spot
  | ended spot => simp [spot?_eq_some, empty] at spot

theorem received_prefix_entered (begun : start slots stages shared = .ok first)
    (run : replay steps first = some (c, h)) : received h <+: entered stages.length h := by
  by_cases some_stage : stages = []
  · subst some_stage
    have hcarries := replay_invariant (h := [])
      (P := fun h c => c.crews = [] ∧ ∃ channel, c.channels = [channel] ∧
        channel.Carries (sent h) (received h))
      (fun _ _ _ _ _ ⟨empty, _, alone, carries⟩ hstep =>
        carries_of_no_stage (advance_of_advance? hstep) empty alone carries)
      ⟨by rw [start_eq begun]; rfl, .new slots 1 1, by rw [start_eq begun]; rfl,
        Channel.carries_new slots 1 1⟩ run
    obtain ⟨-, _, -, carries⟩ := hcarries
    exact carries.first
  · obtain ⟨s, hs, -, hfetched⟩ := exists_exit_of_replay begun run some_stage
    have hfirst := ((sound_of_replay begun run).stage hs).outlet.first
    have hpos := List.length_pos_iff.mpr some_stage
    rw [hfetched] at hfirst
    rw [← Nat.sub_add_cancel hpos]
    exact hfirst

/-- **One worker per stage keeps the order.** Whatever was asked of such a chain and
in whatever order the moves were made, what was received is a first part of what
the composed transforms make of what was sent. -/
theorem order_kept (begun : start slots stages shared = .ok first)
    (run : replay steps first = some (c, h)) (computes : List.Forall₂ Stage.Computes stages fs)
    (single : ∀ stage ∈ stages, stage.workers = 1) :
    received h <+: (sent h).filterMap (composed fs) := by
  have hentered := entered_prefix begun run computes single le_rfl
  rw [computes.length_eq, List.take_length, ← computes.length_eq] at hentered
  exact (received_prefix_entered begun run).trans hentered

theorem order_kept_halving :
    ∃ first c h, start 2 [halving "half" 1 1, halving "quarter" 1 1] () = .ok first ∧
      replay ([.ask (.send 3), .move (.poll 0 0), .move (.poll 0 0)] ++ stallingSteps ++
        [.ask .receive, .move (.poll 1 0), .ask .receive, .ask .drop]) first = some (c, h) ∧
      sent h = [3, 4, 8, 12, 16, 20] ∧ received h = [1, 2] ∧
      received h <+: (sent h).filterMap (composed
        [fun n => if n % 2 = 0 then some (n / 2) else none,
          fun n => if n % 2 = 0 then some (n / 2) else none]) := by
  have hprefix := order_kept
    (rfl : start 2 [halving "half" 1 1, halving "quarter" 1 1] () = .ok _)
    (rfl : replay ([.ask (.send 3), .move (.poll 0 0), .move (.poll 0 0)] ++ stallingSteps ++
      [.ask .receive, .move (.poll 1 0), .ask .receive, .ask .drop]) _ = some (_, _))
    (.cons (halving_computes _ _ _) (.cons (halving_computes _ _ _) .nil))
    (by simp [halving, Stage.make])
  exact ⟨_, _, _, rfl, rfl, rfl, rfl, hprefix⟩

end Chain

end DocSieve
