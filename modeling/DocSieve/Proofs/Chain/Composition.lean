import DocSieve.Proofs.Chain.Calm

/-!
# A chain composes its transforms

Let every transform of a chain depend on its item alone. Feed the chain and read
it until the last channel is seen closed, without cancelling it: what was received
is then, in some order, what the composed transforms make of what was sent. The
numbers of workers and slots and the order of the moves do not matter.

One stage puts out, in some order, what its transform makes of the items that
came in (`Scene.Sound.puts_perm`); and what comes into a stage is what the one
before it put out. The board counts accordingly: each stage took what the one
before it delivered, and of these its own transform failed on the rest.

Key definition: `composed`.
Key theorems: `Scene.Sound.puts_perm`, `Chain.entered_perm`, `Chain.chain_composes`.
-/

namespace DocSieve

open History
open scoped List

variable {σ α : Type}

/-- One transform after the other; none where one of them has no value. -/
def composed : List (α → Option α) → α → Option α
  | [], item => some item
  | f :: rest, item => (f item).bind (composed rest)

theorem composed_concat (fs : List (α → Option α)) (f : α → Option α) (item : α) :
    composed (fs ++ [f]) item = (composed fs item).bind f := by
  induction fs generalizing item with
  | nil => simp [composed]
  | cons g rest ih =>
    simp only [List.cons_append, composed, Option.bind_assoc]
    congr 1
    funext item
    exact ih item

theorem filterMap_composed {fs : List (α → Option α)} (items : List α) {i : Nat}
    (hi : i < fs.length) : (items.filterMap (composed (fs.take i))).filterMap fs[i] =
      items.filterMap (composed (fs.take (i + 1))) := by
  have hcomposed : composed (fs.take (i + 1)) =
      fun item => (composed (fs.take i) item).bind fs[i] := by
    funext item
    rw [← composed_concat, List.take_concat_get']
  rw [hcomposed, List.filterMap_filterMap]

/-- What a board says of a chain that has dealt with some items: of each name in
turn, what was processed there was delivered by the one before it, and it failed
or was delivered; what failed is what the transform of this name failed on. -/
structure Board.Follows (board : Board) (names : List String) (fs : List (α → Option α))
    (items : List α) : Prop where
  first : ∀ name, names[0]? = some name → (board.stats name).processed = items.length
  next : ∀ i name after, names[i]? = some name → names[i + 1]? = some after →
    (board.stats after).processed = (board.stats name).delivered
  errors : ∀ i name f, names[i]? = some name → fs[i]? = some f → (board.stats name).errors =
    (items.filterMap (composed (fs.take i))).countP fun item => (f item).isNone
  balance : ∀ name ∈ names,
    (board.stats name).processed = (board.stats name).errors + (board.stats name).delivered

namespace Scene

variable {x : Scene σ α} {f : α → Option α}

theorem entered_perm
    (split : x.entered.zipIdx.Perm (x.account.failed ++ x.account.delivered.map (·.1))) :
    x.entered.Perm (x.account.failed.map (·.1) ++ x.account.delivered.map (·.1.1)) := by
  have := split.map Prod.fst
  simpa [List.zipIdx_map_fst, Function.comp_def] using this

/-- **A stage applies its transform.** When it has dealt with all that came in, it
has put out what its transform makes of it. -/
theorem Sound.puts_perm (h : x.Sound) (computes : x.crew.stage.Computes f)
    (split : x.entered.zipIdx.Perm (x.account.failed ++ x.account.delivered.map (·.1))) :
    (Log.puts x.log).Perm (x.entered.filterMap f) := by
  have hfailed : (x.account.failed.map (·.1)).filterMap f = [] := by
    refine List.filterMap_eq_nil_iff.mpr fun item hitem => ?_
    obtain ⟨p, hp, rfl⟩ := List.mem_map.mp hitem
    exact computes.eq_of_yields (h.balanced.failed p hp)
  have hdelivered : (x.account.delivered.map (·.1.1)).filterMap f = Log.puts x.log := by
    rw [h.balanced.puts_eq_filterMap computes, List.filterMap_map]
    rfl
  have hperm := (entered_perm split).filterMap f
  rw [List.filterMap_append, hfailed, hdelivered, List.nil_append] at hperm
  exact hperm.symm

theorem Sound.failed_length (h : x.Sound) (computes : x.crew.stage.Computes f)
    (split : x.entered.zipIdx.Perm (x.account.failed ++ x.account.delivered.map (·.1))) :
    (Log.failed x.log).length = x.entered.countP fun item => (f item).isNone := by
  have hfailed : (x.account.failed.map (·.1)).countP (fun item => (f item).isNone) =
      (x.account.failed.map (·.1)).length := by
    refine List.countP_eq_length.mpr fun item hitem => ?_
    obtain ⟨p, hp, rfl⟩ := List.mem_map.mp hitem
    rw [computes.eq_of_yields (h.balanced.failed p hp)]
    rfl
  have hdelivered : (x.account.delivered.map (·.1.1)).countP (fun item => (f item).isNone) = 0 := by
    refine List.countP_eq_zero.mpr fun item hitem => ?_
    obtain ⟨d, hd, rfl⟩ := List.mem_map.mp hitem
    rw [computes.eq_of_yields (h.balanced.delivered d hd)]
    simp
  rw [(entered_perm split).countP_eq, List.countP_append, hfailed, hdelivered, Nat.add_zero,
    h.balanced.failures]

end Scene

namespace Chain

variable {c first : Chain σ α} {h : History α} {slots : Nat} {stages : List (Stage σ α)}
  {fs : List (α → Option α)} {shared : σ} {steps : List (Step α)}

/-- A chain that is read until it is closed, without being cancelled, is undisturbed. -/
theorem undisturbed_of_closed (begun : start slots stages shared = .ok first)
    (run : replay steps first = some (c, h)) (some_stage : stages ≠ [])
    (going : c.cancelled = false) (closed : (c.act .receive).2 = .closed) :
    c.Undisturbed ∧ ∀ s, c.spot? (stages.length - 1) = some s → s.outlet.receive.2 = .closed := by
  obtain ⟨s, hs, hplace, -⟩ := exists_exit_of_replay begun run some_stage
  have hclosed : s.outlet.receive.2 = .closed := by simpa [act, onChannel, hplace] using closed
  have hpos := List.length_pos_iff.mpr some_stage
  have hlength := length_of_replay begun run
  refine ⟨⟨going, fun i s' hs' hlast => ?_⟩, fun s' hs' => ?_⟩
  · obtain rfl : i = stages.length - 1 := by omega
    obtain rfl := Option.some.inj (hs.symm.trans hs')
    exact (Channel.receive_eq_closed.mp hclosed).1
  · obtain rfl := Option.some.inj (hs.symm.trans hs')
    exact hclosed

theorem allGone_of_closed (begun : start slots stages shared = .ok first)
    (run : replay steps first = some (c, h)) (some_stage : stages ≠ [])
    (going : c.cancelled = false) (closed : (c.act .receive).2 = .closed) {i : Nat} {s : Spot σ α}
    (hs : c.spot? i = some s) : s.crew.allGone = true := by
  obtain ⟨undisturbed, hclosed⟩ := undisturbed_of_closed begun run some_stage going closed
  exact gone_of_exit_closed begun run undisturbed
    (fun s hs => (Channel.receive_eq_closed.mp (hclosed s hs)).2.2) hs

theorem split_of_closed (begun : start slots stages shared = .ok first)
    (run : replay steps first = some (c, h)) (some_stage : stages ≠ [])
    (going : c.cancelled = false) (closed : (c.act .receive).2 = .closed) {i : Nat} {s : Spot σ α}
    (hs : c.spot? i = some s) :
    entered i h = Log.taken (log i h) ∧
      (c.scene h i s).entered.zipIdx.Perm ((c.scene h i s).account.failed ++
        (c.scene h i s).account.delivered.map (·.1)) := by
  obtain ⟨undisturbed, -⟩ := undisturbed_of_closed begun run some_stage going closed
  have hscene := (sound_of_replay begun run).stage hs
  have gone := allGone_of_closed begun run some_stage going closed hs
  have calm := calm_of_replay begun run undisturbed hs
  have all := (calm.left (hscene.exists_gone gone)).2
  exact ⟨all, hscene.split gone all calm.kept⟩

/-- What came into channel `i` is what the first `i` transforms make of what was
sent, if they depend on their items alone, whatever the later ones do. -/
theorem entered_perm_of_initial (begun : start slots stages shared = .ok first)
    (run : replay steps first = some (c, h)) {initial : List (Stage σ α)}
    (part : initial <+: stages) (computes : List.Forall₂ Stage.Computes initial fs)
    (some_stage : stages ≠ []) (going : c.cancelled = false)
    (closed : (c.act .receive).2 = .closed) {i : Nat} (hi : i ≤ initial.length) :
    (entered i h).Perm ((sent h).filterMap (composed (fs.take i))) := by
  induction i with
  | zero => simp [entered, composed]
  | succ i ih =>
    have hfs := computes.length_eq
    have here : stages[i]? = some initial[i] := by
      obtain ⟨rest, rfl⟩ := part
      rw [List.getElem?_append_left hi, List.getElem?_eq_getElem hi]
    obtain ⟨s, hs, hstage⟩ := exists_spot_of_replay begun run here
    have hcomputes : s.crew.stage.Computes fs[i] := by
      rw [hstage]
      exact computes.get (by omega) (by omega)
    have hsplit := (split_of_closed begun run some_stage going closed hs).2
    have hputs := ((sound_of_replay begun run).stage hs).puts_perm hcomputes hsplit
    calc
      entered (i + 1) h
      _ ~ (entered i h).filterMap fs[i] := hputs
      _ ~ ((sent h).filterMap (composed (fs.take i))).filterMap fs[i] :=
        (ih (by omega)).filterMap _
      _ = (sent h).filterMap (composed (fs.take (i + 1))) := filterMap_composed (sent h) _

theorem entered_perm (begun : start slots stages shared = .ok first)
    (run : replay steps first = some (c, h)) (computes : List.Forall₂ Stage.Computes stages fs)
    (some_stage : stages ≠ []) (going : c.cancelled = false)
    (closed : (c.act .receive).2 = .closed) {i : Nat} (hi : i ≤ stages.length) :
    (entered i h).Perm ((sent h).filterMap (composed (fs.take i))) :=
  entered_perm_of_initial begun run List.prefix_rfl computes some_stage going closed hi

theorem received_eq_entered (begun : start slots stages shared = .ok first)
    (run : replay steps first = some (c, h)) (some_stage : stages ≠ [])
    (going : c.cancelled = false) (closed : (c.act .receive).2 = .closed) :
    received h = entered stages.length h := by
  obtain ⟨-, hclosed⟩ := undisturbed_of_closed begun run some_stage going closed
  obtain ⟨s, hs, -, hfetched⟩ := exists_exit_of_replay begun run some_stage
  have hpos := List.length_pos_iff.mpr some_stage
  have hlast : stages.length - 1 + 1 = stages.length := by omega
  have hputs := ((sound_of_replay begun run).stage hs).puts_eq_fetched (hclosed s hs)
  rw [hfetched] at hputs
  rw [← hputs, ← hlast]
  rfl

theorem stats_of_closed (begun : start slots stages shared = .ok first)
    (run : replay steps first = some (c, h)) (distinct : (stages.map (·.name)).Nodup)
    (some_stage : stages ≠ []) (going : c.cancelled = false)
    (closed : (c.act .receive).2 = .closed) {i : Nat} {name : String}
    (here : (stages.map (·.name))[i]? = some name) :
    (c.board.stats name).processed = (entered i h).length ∧
      (c.board.stats name).errors = (Log.failed (log i h)).length ∧
      (c.board.stats name).delivered = (entered (i + 1) h).length ∧
      (c.board.stats name).processed =
        (c.board.stats name).errors + (c.board.stats name).delivered := by
  rw [List.getElem?_map, Option.map_eq_some_iff] at here
  obtain ⟨stage, hstage, rfl⟩ := here
  obtain ⟨s, hs, -⟩ := exists_spot_of_replay begun run hstage
  obtain ⟨all, hsplit⟩ := split_of_closed begun run some_stage going closed hs
  have hbalanced := ((sound_of_replay begun run).stage hs).balanced
  have htells := stats_of_distinct begun run distinct hstage
  have hlength := (Scene.entered_perm hsplit).length_eq
  rw [List.length_append, List.length_map, List.length_map] at hlength
  have hfailed : (Log.failed (log i h)).length = (c.scene h i s).account.failed.length :=
    hbalanced.length_failed
  have hputs : (Log.puts (log i h)).length = (c.scene h i s).account.delivered.length :=
    hbalanced.length_puts
  refine ⟨?_, htells.errors, htells.delivered, ?_⟩
  · rw [htells.processed, all]
  · rw [htells.processed, htells.errors, htells.delivered, hfailed, hputs, ← all, ← hlength]
    rfl

/-- **A chain composes its transforms.** Once the last channel of a chain that was
not cancelled is seen closed, what was received is what the composed transforms
make of what was sent, in some order, and the board follows. -/
theorem chain_composes (begun : start slots stages shared = .ok first)
    (run : replay steps first = some (c, h)) (computes : List.Forall₂ Stage.Computes stages fs)
    (distinct : (stages.map (·.name)).Nodup) (some_stage : stages ≠ [])
    (going : c.cancelled = false) (closed : (c.act .receive).2 = .closed) :
    (received h).Perm ((sent h).filterMap (composed fs)) ∧
      c.board.Follows (stages.map (·.name)) fs (sent h) := by
  have hstats {i : Nat} {name : String} (here : (stages.map (·.name))[i]? = some name) :=
    stats_of_closed begun run distinct some_stage going closed here
  refine ⟨?_, ?_, ?_, ?_, ?_⟩
  · have hperm := entered_perm begun run computes some_stage going closed le_rfl
    rw [received_eq_entered begun run some_stage going closed]
    rwa [computes.length_eq, List.take_length, ← computes.length_eq] at hperm
  · intro name here
    exact (hstats here).1
  · intro i name after here there
    rw [(hstats there).1, (hstats here).2.2.1]
  · intro i name f here hf
    rw [(hstats here).2.1]
    rw [List.getElem?_map, Option.map_eq_some_iff] at here
    obtain ⟨stage, hstage, rfl⟩ := here
    obtain ⟨s, hs, hspot⟩ := exists_spot_of_replay begun run hstage
    obtain ⟨hi, rfl⟩ := List.getElem?_eq_some_iff.mp hstage
    obtain ⟨hfi, rfl⟩ := List.getElem?_eq_some_iff.mp hf
    have hcomputes : s.crew.stage.Computes fs[i] := by
      rw [hspot]
      exact computes.get hi hfi
    have hsplit := (split_of_closed begun run some_stage going closed hs).2
    have hperm := entered_perm begun run computes some_stage going closed hi.le
    rw [← hperm.countP_eq]
    exact ((sound_of_replay begun run).stage hs).failed_length hcomputes hsplit
  · intro name hmem
    obtain ⟨i, here⟩ := List.mem_iff_getElem?.mp hmem
    exact (hstats here).2.2.2

/-- Two stages halve 4 twice; the second one fails on the half of 6. -/
def quarteringSteps : List (Step Nat) :=
  [.ask (.send 4), .move (.poll 0 0), .ask (.send 6), .move (.poll 0 0), .move (.poll 0 0),
    .ask .close, .move (.poll 1 0), .move (.poll 0 0), .move (.poll 0 0), .move (.poll 0 0),
    .move (.poll 0 0), .move (.poll 1 0), .move (.poll 1 0), .move (.finish 0),
    .move (.poll 1 0), .move (.poll 1 0), .ask .receive, .move (.poll 1 0), .move (.finish 1)]

theorem chain_composes_halving :
    ∃ first c h, start 2 [halving "half" 1 1, halving "quarter" 1 1] () = .ok first ∧
      replay quarteringSteps first = some (c, h) ∧ c.cancelled = false ∧
      (c.act .receive).2 = .closed ∧ sent h = [4, 6] ∧ received h = [1] ∧
      c.board.Follows ["half", "quarter"]
        [fun n => if n % 2 = 0 then some (n / 2) else none,
          fun n => if n % 2 = 0 then some (n / 2) else none] [4, 6] := by
  have hfollows := (chain_composes
    (rfl : start 2 [halving "half" 1 1, halving "quarter" 1 1] () = .ok _)
    (rfl : replay quarteringSteps _ = some (_, _))
    (.cons (halving_computes _ _ _) (.cons (halving_computes _ _ _) .nil)) (by decide) (by simp)
    rfl rfl).2
  exact ⟨_, _, _, rfl, rfl, rfl, rfl, rfl, rfl, hfollows⟩

end Chain

end DocSieve
