import DocSieve.Proofs.Sieve.Stages

/-!
# A sieve with one worker per stage is a sequential program

The sequential program deals with one request after the other: it reads the
document, splits it into terms and embeds it, skips the request if that fails, and
submits the vector to one index, which is empty at first. A sieve whose stages have
one worker each refines it. The first three stages keep the order and leave the
collection alone, so the last one decides on the prepared documents in the order of
their requests; its worker puts the decisions out in that order. What was received
is at any time a first part of the sequential decisions, and at the close it is all
of them, over the sequential index.

Key definitions: `Index.decideAll`, `Sieve.sequential`.
Key theorems: `Index.decideAll_eq`, `Sieve.refines_sequential`.
-/

namespace DocSieve

open History

namespace Index

/-- The index after some requests, dealt with one after the other, with the decisions.
A request whose document cannot be prepared is skipped. -/
def decideAll (files : FileTree) (embedder : Embedder) :
    Index → List Request → Index × List Decision
  | index, [] => (index, [])
  | index, request :: rest =>
    match files.prepare embedder request with
    | .error _ => decideAll files embedder index rest
    | .ok doc =>
      let (next, decision) := index.submit doc
      let (last, decisions) := decideAll files embedder next rest
      (last, decision :: decisions)

/-- The documents that can be prepared are submitted in the order of their requests. -/
theorem decideAll_eq (files : FileTree) (embedder : Embedder) (index : Index)
    (requests : List Request) : decideAll files embedder index requests
      = index.submitAll (requests.filterMap fun r => (files.prepare embedder r).toOption) := by
  induction requests generalizing index with
  | nil => rfl
  | cons request rest ih =>
    unfold decideAll
    cases prepared : files.prepare embedder request with
    | error fault =>
      rw [List.filterMap_cons_none (by rw [prepared]; rfl)]
      exact ih index
    | ok doc =>
      rw [List.filterMap_cons_some (by rw [prepared]; rfl), submitAll_cons]
      simp only [ih]

end Index

namespace Sieve

variable {config : Config} {files : FileTree} {slots : Nat} {first c : Chain Collection Parcel}
  {steps : List (Step Parcel)} {h : History Parcel} {requests : List Request}

/-- The sequential program of a configuration. -/
def sequential (config : Config) (files : FileTree) (requests : List Request) :
    Except Fault (Index × List Decision) := do
  let embedder ← Embedder.new? config.embedding.dimensions
  let index ← Index.create? config.index.threshold config.index.initialCapacity
  return Index.decideAll files embedder index requests

theorem single_of_keepsOrder {stages : List (Stage Collection Parcel)} {collection : Collection}
    (begun : Chain.start slots stages collection = .ok first) (single : first.keepsOrder = true) :
    ∀ stage ∈ stages, stage.workers = 1 := by
  intro stage mem
  rw [Chain.start_eq begun] at single
  have all := List.all_eq_true.mp single (.start stage) (List.mem_map_of_mem mem)
  simpa [Crew.start] using all

theorem exists_initial_docs {parcels : List Parcel} {docs : List EmbeddedDocument}
    (part : parcels <+: docs.map .embedded) :
    ∃ initial rest, docs = initial ++ rest ∧ parcels = initial.map .embedded := by
  refine ⟨docs.take parcels.length, docs.drop parcels.length,
    (List.take_append_drop _ _).symm, ?_⟩
  rw [List.map_take]
  exact List.prefix_iff_eq_take.mp part

/-- **A sieve with one worker per stage refines the sequential program.** What was
received is a first part of the sequential decisions. Once all was sent and the last
channel is seen closed without a cancel, it is all of them, the index is the
sequential one, and the decisions are counted. -/
theorem refines_sequential (begun : startChain config files slots = .ok first)
    (run : Chain.replay steps first = some (c, h)) (single : first.keepsOrder = true)
    (fed : sent h <+: requests.map .request) :
    ∃ index decisions, sequential config files requests = .ok (index, decisions) ∧
      received h <+: decisions.map .decided ∧
      (sent h = requests.map .request → c.cancelled = false → (c.act .receive).2 = .closed →
        received h = decisions.map .decided ∧ c.shared.index = index ∧
        c.shared.tally.documents = .ofNat decisions.length ∧
        c.shared.tally.duplicates = .ofNat (decisions.countP (·.isDuplicate))) := by
  obtain ⟨embedder, hembedder, hindex, begun⟩ := exists_of_startChain begun
  have single := single_of_keepsOrder begun single
  have part := initial_stages config.stages files embedder
  have computes := computes_initial config.stages files embedder
  have singleInitial : ∀ stage ∈ (stages config.stages files embedder).take 3, stage.workers = 1 :=
    fun stage mem => single stage (part.subset mem)
  have last : (indexStage config.stages.index).workers = 1 :=
    single _ (by simp [stages, indexStage])
  set empty := Index.empty config.index.threshold with hempty
  set docs := requests.filterMap fun r => (files.prepare embedder r).toOption with hdocs
  have prepared := filterMap_preparing files embedder requests
  refine ⟨(empty.submitAll docs).1, (empty.submitAll docs).2, ?_, ?_, ?_⟩
  · unfold sequential
    rw [hembedder, hindex]
    change Except.ok _ = _
    rw [Index.decideAll_eq]
  · -- The documents decided on are the first ones, so their decisions are the first ones.
    have entered3 : entered 3 h <+: docs.map .embedded := by
      have sent3 := Chain.entered_prefix_of_initial (i := 3) begun run part computes singleInitial
        le_rfl
      rw [← prepared]
      exact sent3.trans (fed.filterMap _)
    have ran3 := (Chain.ran_prefix_entered (i := 3) begun run rfl last).trans entered3
    obtain ⟨initial, rest, split, ran⟩ := exists_initial_docs ran3
    have made := (collection_of_replay begun run ran).2.2
    have received4 : received h <+: entered 4 h := Chain.received_prefix_entered begun run
    have puts := Chain.puts_prefix_made (i := 3) begun run rfl last
    rw [made] at puts
    rw [split, Index.submitAll_append, List.map_append]
    exact (received4.trans puts).trans (List.prefix_append _ _)
  · intro all going closed
    have entered3 : entered 3 h = docs.map .embedded := by
      have sent3 := Chain.entered_eq_of_closed (i := 3) begun run part computes singleInitial going
        closed (List.cons_ne_nil _ _) le_rfl
      rw [sent3, all]
      exact prepared
    have ran := Chain.ran_eq_entered (i := 3) begun run rfl going closed last
    rw [entered3] at ran
    obtain ⟨index, tally, made⟩ := collection_of_replay begun run ran
    have received4 : received h = entered 4 h :=
      Chain.received_eq_entered begun run (List.cons_ne_nil _ _) going closed
    have puts := Chain.puts_eq_made (i := 3) begun run rfl going closed last
    refine ⟨?_, index, ?_, ?_⟩
    · rw [received4, puts, made]
    · rw [tally]
      exact UInt64.zero_add _
    · rw [tally]
      exact UInt64.zero_add _

theorem refines_sequential_small :
    startChain smallConfig smallFiles 3 = .ok smallChain ∧ smallChain.keepsOrder = true ∧
    ∃ c h, Chain.replay smallSteps smallChain = some (c, h) ∧
      sent h = smallRequests.map .request ∧ c.cancelled = false ∧
      (c.act .receive).2 = .closed ∧
      ∃ index, sequential smallConfig smallFiles smallRequests = .ok (index, smallDecisions) ∧
        received h = smallDecisions.map .decided ∧ c.shared.index = index ∧
        c.shared.tally.documents = 2 ∧ c.shared.tally.duplicates = 1 := by
  obtain ⟨c, h, run, sent, received, going, closed⟩ := small_run
  obtain ⟨index, decisions, program, -, rest⟩ := refines_sequential
    (rfl : startChain smallConfig smallFiles 3 = .ok smallChain) run rfl
    ⟨[], by rw [sent, List.append_nil]⟩
  obtain ⟨all, stored, documents, duplicates⟩ := rest sent going closed
  obtain rfl := Parcel.map_decided_inj.mp (received.symm.trans all)
  exact ⟨rfl, rfl, c, h, run, sent, going, closed, index, program, received, stored, documents,
    duplicates⟩

end Sieve

end DocSieve
