import DocSieve.Proofs.Chain.Delivery
import DocSieve.Proofs.Chain.Sharing
import DocSieve.Proofs.Sieve.Collection
import DocSieve.Sieve.Basic

/-!
# What the four stages do

The first three stages of a sieve depend on their parcel alone: together they make
of a request the document's vector, or nothing (`preparing`). Only the last one looks
at the collection, and only it changes it: what it has made of it is a row of
submissions to the index, with the decisions counted (`collection_of_replay`). So
after any run of a sieve, however its workers took turns, there are documents that
were decided on, in an order, each prepared from its own request; the index and the
counts are those of submitting these documents in that order.

Key definitions: `FileTree.prepare`, `Sieve.preparing`.
Key theorems: `Sieve.exists_of_startChain`, `Sieve.computes_initial`,
`Sieve.collection_of_replay`.
-/

namespace DocSieve

open History
open scoped List

/-- The vector of the document that a request names: it is read, split into terms and
embedded. -/
def FileTree.prepare (files : FileTree) (embedder : Embedder) (request : Request) :
    Except Fault EmbeddedDocument := do
  let doc ← files.load request
  embedder.embedDocument doc.tokenize

theorem Outcome.ofExcept_value? {α β : Type} (wrap : α → β) (result : Except Fault α) :
    (Outcome.ofExcept wrap result).value? = result.toOption.map wrap := by
  rcases result with fault | value
  · cases fault <;> rfl
  · rfl

/-- Some of the values of a function, in another order, are the values of some
arguments in another order. -/
theorem exists_map_of_subperm {α β : Type} {f : α → β} {l : List α} {l' : List β}
    (h : l' <+~ l.map f) : ∃ m, l' = m.map f ∧ m <+~ l := by
  obtain ⟨_, perm, sublist⟩ := h
  obtain ⟨k, sub, rfl⟩ := List.sublist_map_iff.mp sublist
  have comp : Relation.Comp (fun l' m => l' = m.map f) (· ~ ·) l' k := by
    rw [List.eq_map_comp_perm]
    exact perm.symm
  obtain ⟨m, eq, perm'⟩ := comp
  exact ⟨m, eq, perm'.subperm.trans sub.subperm⟩

deriving instance DecidableEq for Parcel, Answer

theorem Parcel.map_decided_inj {decisions others : List Decision} :
    decisions.map Parcel.decided = others.map .decided ↔ decisions = others :=
  (List.map_injective_iff.mpr fun _ _ => Parcel.decided.inj).eq_iff

namespace Sieve

variable {config : Config} {files : FileTree} {slots : Nat} {first c : Chain Collection Parcel}
  {steps : List (Step Parcel)} {h : History Parcel} {requests : List Request}

/-! ### The first three stages -/

/-- A stage that leaves the collection alone depends on its parcel alone. -/
theorem plainStage_computes (name : String) (size : StageConfig)
    (transform : Parcel → Outcome Parcel) :
    (plainStage name size transform).Computes fun parcel => (transform parcel).value? :=
  fun _ _ => rfl

theorem plainStage_leavesAlone (name : String) (size : StageConfig)
    (transform : Parcel → Outcome Parcel) : (plainStage name size transform).LeavesAlone :=
  fun _ _ => rfl

/-- What the first three stages make of a parcel. -/
def preparing (files : FileTree) (embedder : Embedder) : List (Parcel → Option Parcel) :=
  [fun parcel => (parcel.load files).value?, fun parcel => parcel.tokenize.value?,
    fun parcel => (parcel.embed embedder).value?]

/-- The stage that decides. -/
def indexStage (size : StageConfig) : Stage Collection Parcel :=
  .make "index" size.workers.toNat size.bufferSize.toNat Parcel.submit

theorem initial_stages (sizes : StagesConfig) (files : FileTree) (embedder : Embedder) :
    (stages sizes files embedder).take 3 <+: stages sizes files embedder :=
  List.take_prefix 3 _

theorem computes_initial (sizes : StagesConfig) (files : FileTree) (embedder : Embedder) :
    List.Forall₂ Stage.Computes ((stages sizes files embedder).take 3)
      (preparing files embedder) :=
  .cons (plainStage_computes _ _ _) (.cons (plainStage_computes _ _ _)
    (.cons (plainStage_computes _ _ _) .nil))

theorem composed_preparing (files : FileTree) (embedder : Embedder) (request : Request) :
    composed (preparing files embedder) (.request request)
      = ((files.prepare embedder request).toOption).map .embedded := by
  simp only [preparing, composed, Parcel.load, Outcome.ofExcept_value?]
  unfold FileTree.prepare
  cases files.load request with
  | error fault => rfl
  | ok doc =>
    change (Outcome.value? (Outcome.ofExcept _ _)).bind _ = _
    rw [Outcome.ofExcept_value?]
    change _ = Option.map _ (embedder.embedDocument doc.tokenize).toOption
    cases (embedder.embedDocument doc.tokenize).toOption <;> rfl

theorem filterMap_preparing (files : FileTree) (embedder : Embedder) (requests : List Request) :
    (requests.map Parcel.request).filterMap (composed (preparing files embedder))
      = (requests.filterMap fun r => (files.prepare embedder r).toOption).map .embedded := by
  rw [List.filterMap_map, List.map_filterMap]
  exact List.filterMap_congr fun r _ => composed_preparing files embedder r

/-! ### The last stage -/

theorem indexStage_after (size : StageConfig) (collection : Collection)
    (docs : List EmbeddedDocument) :
    (indexStage size).after collection (docs.map .embedded) = (collection.submitAll docs).1 := by
  induction docs generalizing collection with
  | nil => rfl
  | cons doc docs ih => exact ih (collection.submit doc).1

theorem indexStage_values (size : StageConfig) (collection : Collection)
    (docs : List EmbeddedDocument) :
    (indexStage size).values collection (docs.map .embedded)
      = (collection.submitAll docs).2.map .decided := by
  induction docs generalizing collection with
  | nil => rfl
  | cons doc docs ih =>
    exact congrArg (.decided (collection.submit doc).2 :: ·) (ih (collection.submit doc).1)

/-! ### Runs -/

theorem exists_of_startChain (begun : startChain config files slots = .ok first) :
    ∃ embedder, Embedder.new? config.embedding.dimensions = .ok embedder ∧
      Index.create? config.index.threshold config.index.initialCapacity
        = .ok (.empty config.index.threshold) ∧
      Chain.start slots (stages config.stages files embedder)
        ⟨.empty config.index.threshold,
          { IndexTally.zero with threshold := config.index.threshold }⟩ = .ok first := by
  obtain ⟨embedder, hembedder, begun⟩ := exists_of_bind_eq_ok begun
  obtain ⟨collection, hcollection, begun⟩ := exists_of_bind_eq_ok begun
  obtain ⟨index, hindex, made⟩ := exists_of_bind_eq_ok hcollection
  obtain rfl := Except.ok.inj made
  obtain ⟨-, rfl⟩ := Index.eq_of_create? hindex
  exact ⟨embedder, hembedder, hindex, begun⟩

variable {embedder : Embedder} {collection : Collection}

/-- The documents that a sieve has decided on, in the order of the decisions: they are
prepared from requests that were sent, each from its own. -/
theorem exists_docs (begun : Chain.start slots (stages config.stages files embedder) collection
      = .ok first) (run : Chain.replay steps first = some (c, h))
    (fed : sent h <+: requests.map .request) :
    ∃ docs, Log.ran (log 3 h) = docs.map .embedded ∧
      docs <+~ requests.filterMap fun r => (files.prepare embedder r).toOption := by
  have hentered := Chain.entered_subperm begun run (initial_stages _ _ _)
    (computes_initial config.stages files embedder) (i := 3) le_rfl
  have hran := (Chain.ran_subperm_entered (i := 3) begun run rfl).trans hentered
  have hsent := (fed.filterMap (composed (preparing files embedder))).sublist.subperm
  rw [filterMap_preparing] at hsent
  exact exists_map_of_subperm (hran.trans hsent)

/-- **A sieve submits documents to its index.** After any run, the collection is what
the documents decided on have made of it, and the values made are the decisions. -/
theorem collection_of_replay (begun : Chain.start slots (stages config.stages files embedder)
      collection = .ok first) (run : Chain.replay steps first = some (c, h))
    {docs : List EmbeddedDocument} (ran : Log.ran (log 3 h) = docs.map .embedded) :
    c.shared.index = (collection.index.submitAll docs).1 ∧
      c.shared.tally = collection.tally.counted (collection.index.submitAll docs).2 ∧
      Log.made (log 3 h) = (collection.index.submitAll docs).2.map .decided := by
  have alone : ∀ i other, i ≠ 3 → (stages config.stages files embedder)[i]? = some other →
      other.LeavesAlone := by
    intro i other hi here
    match i with
    | 0 | 1 | 2 =>
      obtain rfl := Option.some.inj here
      exact plainStage_leavesAlone _ _ _
    | 3 => exact absurd rfl hi
    | i + 4 => cases here
  have here : (stages config.stages files embedder)[3]? = some (indexStage config.stages.index) :=
    rfl
  obtain ⟨shared, made⟩ := Chain.shared_of_replay begun run here alone
  rw [ran] at shared made
  rw [indexStage_after, Collection.submitAll_eq] at shared
  rw [indexStage_values, Collection.submitAll_eq] at made
  exact ⟨by rw [shared], by rw [shared], made⟩

/-! ### A small sieve -/

/-- One worker and two slots for each stage, two components, and the threshold 0.5. -/
def smallConfig : Config :=
  { Config.default with
    stages := ⟨⟨1, 2⟩, ⟨1, 2⟩, ⟨1, 2⟩, ⟨1, 2⟩⟩
    embedding := ⟨2⟩
    index := ⟨0.5, 4⟩ }

/-- One file, which holds two terms. -/
def smallFiles : FileTree := .directory [("f", .file [97, 32, 98])]

/-- The file is asked for twice, and another one that is not there. -/
def smallRequests : List Request := [⟨"x", "f", 0, 3⟩, ⟨"y", "g", 0, 3⟩, ⟨"z", "f", 0, 3⟩]

/-- The sieve at its start. -/
def smallChain : Chain Collection Parcel :=
  let stages := stages smallConfig.stages smallFiles ⟨2, by decide⟩
  ⟨Chain.wire 3 1 stages, stages.map .start,
    ⟨.empty 0.5, { IndexTally.zero with threshold := 0.5 }⟩, [], false⟩

/-- A stage's worker looks around some times, then the stage ends. -/
def stageSteps (stage polls : Nat) : List (Step Parcel) :=
  List.replicate polls (.move (.poll stage 0)) ++ [.move (.finish stage)]

/-- The requests are sent, one stage after the other does all its work, and the
decisions are received. -/
def smallSteps : List (Step Parcel) :=
  smallRequests.map (fun r => .ask (.send (.request r))) ++ [.ask .close] ++ stageSteps 0 9
    ++ stageSteps 1 7 ++ stageSteps 2 7 ++ stageSteps 3 7 ++ [.ask .receive, .ask .receive]

/-- The decisions on the small requests: the second document repeats the first one, up
to the rounding of their similarity. -/
def smallDecisions : List Decision :=
  [⟨"x", false, "", 0.0⟩, ⟨"z", true, "x", .ofBits 0x3f7fffff⟩]

theorem small_run : ∃ c h, Chain.replay smallSteps smallChain = some (c, h) ∧
    sent h = smallRequests.map .request ∧ received h = smallDecisions.map .decided ∧
    c.cancelled = false ∧ (c.act .receive).2 = .closed := by
  have ends : (Chain.replay smallSteps smallChain).any (fun (c, h) =>
      sent h = smallRequests.map .request ∧ received h = smallDecisions.map .decided ∧
      c.cancelled = false ∧ (c.act .receive).2 = .closed) = true := by decide +kernel
  obtain ⟨⟨c, h⟩, run, facts⟩ := (Option.any_eq_true _ _).mp ends
  exact ⟨c, h, run, of_decide_eq_true facts⟩

end Sieve

end DocSieve
