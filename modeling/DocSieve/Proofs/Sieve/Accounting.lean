import DocSieve.Proofs.Chain.Tally
import DocSieve.Proofs.Index.Decisions
import DocSieve.Proofs.Sieve.Stages

/-!
# The accounts of a sieve

However many workers the stages have, whenever the sieve is cancelled or left: the
documents that the index has decided on are prepared from requests, each from its
own, so with distinct names of the requests their names are distinct. From this
follow the accounts of the collection and of the decisions put out (`Accounted`).
The counts and the index change with the decision, before it is put out, so they
can be ahead of the decisions by one for each worker of the last stage.

A sieve read until it is closed has decided on every document that can be loaded,
once, as long as vectors of its dimension can be held in memory; if they cannot, no
document is embedded and nothing is decided.

Key definition: `Sieve.Accounted`.
Key theorems: `Sieve.prepared_ids`, `Sieve.accounted_of_replay`,
`Sieve.accounts_agree`.
-/

namespace DocSieve

open History
open scoped List

/-! ### Names -/

theorem FileTree.load_id {files : FileTree} {request : Request} {doc : Document}
    (loaded : files.load request = .ok doc) : doc.id = request.id := by
  unfold load at loaded
  obtain ⟨opened, -, loaded⟩ := exists_of_bind_eq_ok loaded
  dsimp only at loaded
  split at loaded
  · cases loaded
  split at loaded
  · cases loaded
  split at loaded
  · cases loaded
    rfl
  · split at loaded
    · cases loaded
      rfl
    · cases loaded

/-- A document is prepared if it can be loaded and its vector can be held in memory. -/
theorem FileTree.prepare_id (files : FileTree) (embedder : Embedder) (request : Request) :
    (files.prepare embedder request).toOption.map (·.id)
      = if embedder.fits && (files.load request).isOk then some request.id else none := by
  unfold prepare
  cases loaded : files.load request with
  | error fault => simp [bind, Except.bind, Except.isOk, Except.toBool, Except.toOption]
  | ok doc =>
    have name := load_id loaded
    cases room : embedder.fits <;>
      simp [bind, Except.bind, Embedder.embedDocument, Embedder.embed, room, Except.isOk,
        Except.toBool, Except.toOption, Document.tokenize, name, pure, Except.pure, throw, throwThe,
        MonadExceptOf.throw]

/-- The names of the prepared documents are those of the requests that can be loaded,
or there are none. -/
theorem FileTree.prepared_ids (files : FileTree) (embedder : Embedder) (requests : List Request) :
    (requests.filterMap fun r => (files.prepare embedder r).toOption).map (·.id)
      = if embedder.fits then (requests.filter fun r => (files.load r).isOk).map (·.id)
        else [] := by
  have named : ∀ r ∈ requests, (files.prepare embedder r).toOption.map (·.id)
      = if embedder.fits && (files.load r).isOk then some r.id else none :=
    fun r _ => files.prepare_id embedder r
  rw [List.map_filterMap, List.filterMap_congr named]
  cases embedder.fits
  · simp
  · simp [← List.filterMap_eq_map, List.filterMap_filter]

namespace Sieve

/-! ### Accounts -/

/-- The accounts of a collection, and of the decisions put out by a last stage with some
workers. -/
structure Accounted (files : FileTree) (requests : List Request) (workers : Nat)
    (collection : Collection) (decisions : List Decision) : Prop where
  /-- Every document decided on is a duplicate or stored, and of the documents decided
  on all but one for each worker have their decisions put out. -/
  counted : ∃ duplicates : Nat, collection.tally.duplicates = .ofNat duplicates ∧
    collection.tally.documents = .ofNat (duplicates + collection.index.entries.size) ∧
    decisions.length ≤ duplicates + collection.index.entries.size ∧
    duplicates + collection.index.entries.size ≤ decisions.length + workers
  stored_once : collection.index.ids.Nodup
  stored_loads : ∀ id ∈ collection.index.ids,
    ∃ r ∈ requests, r.id = id ∧ (files.load r).isOk = true
  decided_once : (decisions.map (·.id)).Nodup
  stored_iff : ∀ decision ∈ decisions,
    (decision.isDuplicate = false ↔ decision.id ∈ collection.index.ids)
  nearest : ∀ decision ∈ decisions, decision.isDuplicate = true →
    decision.nearestId ∈ collection.index.ids ∧ decision.nearestId ≠ decision.id

variable {config : Config} {files : FileTree} {slots workers : Nat}
  {first c : Chain Collection Parcel} {steps : List (Step Parcel)} {h : History Parcel}
  {requests : List Request} {embedder : Embedder} {docs : List EmbeddedDocument}
  {threshold : Float32} {decisions : List Decision} {collection : Collection}

theorem names_of_prepared (distinct : (requests.map (·.id)).Nodup)
    (own : docs <+~ requests.filterMap fun r => (files.prepare embedder r).toOption) :
    (docs.map (·.id)).Nodup ∧
      ∀ id ∈ docs.map (·.id), ∃ r ∈ requests, r.id = id ∧ (files.load r).isOk = true := by
  obtain ⟨docs', perm, sublist⟩ := own
  have names : docs.map (·.id) ~ docs'.map (·.id) := (perm.map _).symm
  have part := sublist.map (·.id)
  rw [FileTree.prepared_ids] at part
  split at part
  · constructor
    · refine names.nodup_iff.mpr (List.Nodup.sublist part ?_)
      exact distinct.sublist (List.filter_sublist.map _)
    · intro id mem
      obtain ⟨r, chosen, rfl⟩ := List.mem_map.mp (part.subset (names.subset mem))
      obtain ⟨there, loads⟩ := List.mem_filter.mp chosen
      exact ⟨r, there, rfl, loads⟩
  · have none : docs.map (·.id) = [] := (List.sublist_nil.mp part ▸ names).eq_nil
    rw [none]
    exact ⟨List.nodup_nil, fun id mem => absurd mem List.not_mem_nil⟩

/-- What a row of submissions to an empty index leads to, if all but so many of its
decisions are put out. -/
theorem accounted_of_submitted (positive : (0.0 : Float32) < threshold)
    (distinct : (requests.map (·.id)).Nodup)
    (own : docs <+~ requests.filterMap fun r => (files.prepare embedder r).toOption)
    (stored : collection.index = ((Index.empty threshold).submitAll docs).1)
    (tally : collection.tally = { IndexTally.zero with threshold }.counted
      ((Index.empty threshold).submitAll docs).2)
    (out : decisions <+~ ((Index.empty threshold).submitAll docs).2)
    (few : ((Index.empty threshold).submitAll docs).2.length ≤ decisions.length + workers) :
    Accounted files requests workers collection decisions := by
  set empty := Index.empty threshold with hempty
  obtain ⟨names, loads⟩ := names_of_prepared distinct own
  have nothing : empty.ids = [] := rfl
  have fresh : (empty.ids ++ docs.map (·.id)).Nodup := by
    rw [nothing]
    exact names
  have aligned : (empty.submitAll docs).1.Aligned :=
    (Index.aligned_empty threshold).submitAll docs
  have size := empty.submitAll_size docs
  have length := empty.submitAll_length docs
  rw [← aligned.size_entries, show empty.size = 0 from rfl] at size
  have less := out.length_le
  refine ⟨⟨(empty.submitAll docs).2.countP (·.isDuplicate), ?_, ?_, ?_, ?_⟩, ?_, ?_, ?_, ?_, ?_⟩
  · rw [tally]
    exact UInt64.zero_add _
  · rw [tally, stored, size, IndexTally.counted, length]
    exact UInt64.zero_add _
  · rw [stored]
    omega
  · rw [stored]
    omega
  · rw [stored]
    exact Index.ids_nodup fresh
  · rw [stored, Index.submitAll_stored, nothing, List.nil_append]
    intro id mem
    obtain ⟨decision, kept, rfl⟩ := List.mem_map.mp mem
    refine loads _ ?_
    rw [← Index.submitAll_ids empty docs]
    exact List.mem_map_of_mem (List.mem_filter.mp kept).1
  · have outNames : decisions.map (·.id) <+~ docs.map (·.id) := by
      rw [← Index.submitAll_ids empty docs]
      obtain ⟨decisions', perm, sublist⟩ := out
      exact (perm.map _).symm.subperm.trans (sublist.map _).subperm
    obtain ⟨l, perm, sublist⟩ := outNames
    exact perm.nodup_iff.mp (names.sublist sublist)
  · intro decision mem
    rw [stored]
    exact Index.stored_iff fresh decision (out.subset mem)
  · intro decision mem dup
    rw [stored]
    obtain ⟨there, other⟩ := empty.nearest_of_duplicate positive docs decision (out.subset mem) dup
    exact ⟨there, other fresh⟩

/-! ### Runs -/

theorem accounted_of_replay (begun : startChain config files slots = .ok first)
    (run : Chain.replay steps first = some (c, h)) (fed : sent h <+: requests.map .request)
    (distinct : (requests.map (·.id)).Nodup) :
    ∃ decisions, entered 4 h = decisions.map .decided ∧
      Accounted files requests (max config.stages.index.workers.toNat 1) c.shared decisions := by
  obtain ⟨embedder, -, hindex, begun⟩ := exists_of_startChain begun
  obtain ⟨docs, ran, own⟩ := exists_docs begun run fed
  obtain ⟨stored, tally, made⟩ := collection_of_replay begun run ran
  have here : (stages config.stages files embedder)[3]? = some (indexStage config.stages.index) :=
    rfl
  have puts := Chain.puts_subperm_made begun run here
  have few := Chain.made_length_le begun run here
  rw [made] at puts few
  obtain ⟨decisions, out, part⟩ := exists_map_of_subperm puts
  refine ⟨decisions, out, ?_⟩
  have positive := Index.positive_of_accepts (Index.eq_of_create? hindex).1
  refine accounted_of_submitted positive distinct own stored tally part ?_
  rwa [out, List.length_map, List.length_map] at few

theorem names_of_closed (begun : Chain.start slots (stages config.stages files embedder) collection
      = .ok first) (run : Chain.replay steps first = some (c, h))
    (fed : sent h = requests.map .request) (going : c.cancelled = false)
    (closed : (c.act .receive).2 = .closed) (out : entered 4 h = decisions.map .decided) :
    decisions.map (·.id) ~ if embedder.fits then
      (requests.filter fun r => (files.load r).isOk).map (·.id) else [] := by
  obtain ⟨docs, ran, -⟩ := exists_docs begun run ⟨[], by rw [fed, List.append_nil]⟩
  obtain ⟨-, -, made⟩ := collection_of_replay begun run ran
  have here : (stages config.stages files embedder)[3]? = some (indexStage config.stages.index) :=
    rfl
  have puts := Chain.puts_perm_made begun run here going closed
  have all := Chain.ran_perm_entered begun run here going closed
  have entered3 := Chain.entered_perm_of_initial (i := 3) begun run (initial_stages _ _ _)
    (computes_initial config.stages files embedder) (List.cons_ne_nil _ _) going closed le_rfl
  rw [fed] at entered3
  rw [show (preparing files embedder).take 3 = preparing files embedder from rfl,
    filterMap_preparing] at entered3
  rw [out, made] at puts
  have decided : decisions ~ (collection.index.submitAll docs).2 :=
    (List.map_perm_map_iff fun _ _ => Parcel.decided.inj).mp puts
  have prepared : docs ~ requests.filterMap fun r => (files.prepare embedder r).toOption := by
    rw [ran] at all
    exact (List.map_perm_map_iff fun _ _ => Parcel.embedded.inj).mp (all.trans entered3)
  calc
    decisions.map (·.id)
    _ ~ (collection.index.submitAll docs).2.map (·.id) := decided.map _
    _ = docs.map (·.id) := Index.submitAll_ids _ _
    _ ~ (requests.filterMap fun r => (files.prepare embedder r).toOption).map (·.id) :=
      prepared.map _
    _ = _ := FileTree.prepared_ids files embedder requests

theorem errors_of_closed (begun : Chain.start slots (stages config.stages files embedder) collection
      = .ok first) (run : Chain.replay steps first = some (c, h))
    (fed : sent h = requests.map .request) (going : c.cancelled = false)
    (closed : (c.act .receive).2 = .closed) :
    (c.board.stats "load").errors = (requests.filter fun r => !(files.load r).isOk).length := by
  have distinct : ((stages config.stages files embedder).map (·.name)).Nodup := by
    simp [stages, plainStage, Stage.make]
  have name : ((stages config.stages files embedder).map (·.name))[0]? = some "load" := rfl
  obtain ⟨-, errors, -⟩ := Chain.stats_of_closed begun run distinct (List.cons_ne_nil _ _) going
    closed name
  have here : (stages config.stages files embedder)[0]?
      = some (plainStage "load" config.stages.load (Parcel.load files)) := rfl
  obtain ⟨s, hs, hstage⟩ := Chain.exists_spot_of_replay begun run here
  have split := (Chain.split_of_closed begun run (List.cons_ne_nil _ _) going closed hs).2
  have computes : (c.scene h 0 s).crew.stage.Computes fun parcel => (parcel.load files).value? := by
    change s.crew.stage.Computes _
    rw [hstage]
    exact plainStage_computes _ _ _
  have failed := ((Chain.sound_of_replay begun run).stage hs).failed_length computes split
  change (Log.failed (log 0 h)).length = (sent h).countP _ at failed
  rw [errors, failed, fed, List.countP_map, List.countP_eq_length_filter]
  congr 2
  funext r
  simp only [Function.comp, Parcel.load, Outcome.ofExcept_value?]
  cases files.load r <;> rfl

/-- **The accounts of a sieve agree.** With distinct names of the requests, whatever was
asked and however the workers took turns, the accounts of the collection and of the
decisions put out hold. Once all was sent and the last channel is seen closed without
a cancel, the decisions are received; there is one for each request that can be loaded
if vectors can be held in memory, and none otherwise; and the errors of the loading are
the requests that cannot be loaded. -/
theorem accounts_agree (begun : startChain config files slots = .ok first)
    (run : Chain.replay steps first = some (c, h)) (fed : sent h <+: requests.map .request)
    (distinct : (requests.map (·.id)).Nodup) :
    ∃ decisions, entered 4 h = decisions.map .decided ∧
      Accounted files requests (max config.stages.index.workers.toNat 1) c.shared decisions ∧
      (sent h = requests.map .request → c.cancelled = false → (c.act .receive).2 = .closed →
        received h = decisions.map .decided ∧
        (decisions.map (·.id) ~
          if config.embedding.dimensions.toNat * 4 ≤ maxAllocation then
            (requests.filter fun r => (files.load r).isOk).map (·.id) else []) ∧
        (c.board.stats "load").errors
          = (requests.filter fun r => !(files.load r).isOk).length) := by
  obtain ⟨decisions, out, accounted⟩ := accounted_of_replay begun run fed distinct
  refine ⟨decisions, out, accounted, fun all going closed => ?_⟩
  obtain ⟨embedder, hembedder, -, begun⟩ := exists_of_startChain begun
  have room : embedder.fits = decide (config.embedding.dimensions.toNat * 4 ≤ maxAllocation) := by
    unfold Embedder.new? at hembedder
    split at hembedder
    · cases hembedder
    · cases hembedder
      rfl
  have received4 : received h = entered 4 h :=
    Chain.received_eq_entered begun run (List.cons_ne_nil _ _) going closed
  have names := names_of_closed begun run all going closed out
  simp only [room, decide_eq_true_eq] at names
  exact ⟨received4.trans out, names, errors_of_closed begun run all going closed⟩

theorem accounts_agree_small :
    startChain smallConfig smallFiles 3 = .ok smallChain ∧ (smallRequests.map (·.id)).Nodup ∧
    ∃ c h, Chain.replay smallSteps smallChain = some (c, h) ∧
      sent h = smallRequests.map .request ∧ c.cancelled = false ∧
      (c.act .receive).2 = .closed ∧ received h = smallDecisions.map .decided ∧
      Accounted smallFiles smallRequests 1 c.shared smallDecisions ∧
      smallDecisions.map (·.id) ~ ["x", "z"] ∧ (c.board.stats "load").errors = 1 := by
  obtain ⟨c, h, run, sent, received, going, closed⟩ := small_run
  have distinct : (smallRequests.map (·.id)).Nodup := by decide
  obtain ⟨decisions, -, accounted, rest⟩ := accounts_agree
    (rfl : startChain smallConfig smallFiles 3 = .ok smallChain) run
    ⟨[], by rw [sent, List.append_nil]⟩ distinct
  obtain ⟨all, names, errors⟩ := rest sent going closed
  obtain rfl := Parcel.map_decided_inj.mp (received.symm.trans all)
  have loaded : (smallRequests.filter fun r => (smallFiles.load r).isOk).map (·.id)
      = ["x", "z"] := by
    decide +kernel
  have missing : (smallRequests.filter fun r => !(smallFiles.load r).isOk).length = 1 := by
    decide +kernel
  rw [if_pos (by decide), loaded] at names
  rw [missing] at errors
  exact ⟨rfl, distinct, c, h, run, sent, going, closed, received, accounted, names, errors⟩

/-! ### Vectors that cannot be held -/

/-- The small sieve with more components than can be held in memory. -/
def vastChain : Chain Collection Parcel :=
  let stages := stages smallConfig.stages smallFiles ⟨4611686018427387904, by decide⟩
  ⟨Chain.wire 3 1 stages, stages.map .start,
    ⟨.empty 0.5, { IndexTally.zero with threshold := 0.5 }⟩, [], false⟩

/-- The first request is sent, and one stage after the other does all its work. -/
def vastSteps : List (Step Parcel) :=
  [.ask (.send (.request ⟨"x", "f", 0, 3⟩)), .ask .close] ++ stageSteps 0 4 ++ stageSteps 1 4
    ++ stageSteps 2 3 ++ stageSteps 3 1

/-- A request that can be loaded may have no decision, though the sieve is neither
cancelled nor left and is read until it is closed: its vector cannot be held. -/
theorem loaded_undecided :
    startChain { smallConfig with embedding := ⟨4611686018427387904⟩ } smallFiles 3
      = .ok vastChain ∧
    ∃ c h, Chain.replay vastSteps vastChain = some (c, h) ∧
      sent h = [.request ⟨"x", "f", 0, 3⟩] ∧ (smallFiles.load ⟨"x", "f", 0, 3⟩).isOk = true ∧
      c.cancelled = false ∧ (c.act .receive).2 = .closed ∧ received h = [] := by
  have ends : (Chain.replay vastSteps vastChain).any (fun (c, h) =>
      sent h = [.request ⟨"x", "f", 0, 3⟩] ∧ (smallFiles.load ⟨"x", "f", 0, 3⟩).isOk = true ∧
      c.cancelled = false ∧ (c.act .receive).2 = .closed ∧ received h = []) = true := by
    decide +kernel
  obtain ⟨⟨c, h⟩, run, facts⟩ := (Option.any_eq_true _ _).mp ends
  exact ⟨rfl, c, h, run, of_decide_eq_true facts⟩

end Sieve

end DocSieve
