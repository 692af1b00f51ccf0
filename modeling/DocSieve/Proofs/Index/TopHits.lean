import DocSieve.Proofs.Index.Lookup
import DocSieve.Proofs.Ranking.Stability

/-!
# The hits of a search

A search ranks the places of the index by their scores. As long as all scores are numbers
they are in an order, so a hit that stands ahead of another has no lower score, and was
stored before it if the scores are equal, the two zeros included; and what is left out
stands behind every hit in the same way (`exists_places`). A search is asked of an index
like a submission, but only a submission changes the index: what is searched for in
between leaves no trace (`performAll_index`).

Key definitions: `Index.Task`, `Index.perform`, `Index.Leads`.
Key theorems: `Index.performAll_index`, `Index.exists_places`, `Index.search_ranked`.
-/

namespace DocSieve

namespace Index

/-! ### Submissions and searches -/

/-- What is asked of an index. -/
inductive Task
  | submit (doc : EmbeddedDocument)
  | search (query : Vector32) (k : Nat)

/-- What an index answers; a search finds none where there is no ranking. -/
inductive Answer
  | decided (decision : Decision)
  | found (hits : Option (List Hit))

/-- The document that is submitted. -/
def Task.submitted? : Task → Option EmbeddedDocument
  | .submit doc => some doc
  | .search _ _ => none

/-- The index after a task, and its answer. -/
def perform (index : Index) : Task → Index × Answer
  | .submit doc => ((index.submit doc).1, .decided (index.submit doc).2)
  | .search query k => (index, .found (index.search? query k))

/-- The index after some tasks, with the answers, in order. -/
def performAll : Index → List Task → Index × List Answer
  | index, [] => (index, [])
  | index, task :: tasks =>
    let (next, answer) := index.perform task
    let (last, answers) := next.performAll tasks
    (last, answer :: answers)

variable (index : Index)

/-- **Searches leave no trace.** The index after some tasks is that after the submissions
among them. -/
theorem performAll_index (tasks : List Task) :
    (index.performAll tasks).1 = (index.submitAll (tasks.filterMap Task.submitted?)).1 := by
  induction tasks generalizing index with
  | nil => rfl
  | cons task tasks ih =>
    cases task with
    | submit doc => exact ih (index.submit doc).1
    | search query k => exact ih index

/-! ### The places of the hits -/

variable (query : Vector32)

/-- The hit that the entry at a place is. -/
def hitAt (i : Fin index.entries.size) : Hit :=
  ⟨index.entries[i].id, query.dot index.entries[i].vector⟩

/-- A place is ahead of another: its score is not the lower one, and if the two are equal its
entry was stored first. -/
def Leads (i j : Fin index.entries.size) : Prop :=
  (index.hitAt query j).score ≤ (index.hitAt query i).score ∧
    ((index.hitAt query i).score ≤ (index.hitAt query j).score → i < j)

theorem scores_eq_map :
    (index.scores query).toList = (List.finRange index.entries.size).map (index.hitAt query) := by
  rw [scores_toList]
  refine List.ext_getElem (by simp) fun i _ _ => ?_
  simp [hitAt]

theorem isOrder_hitAt (numbers : ∀ i, (index.hitAt query i).score.isNaN = false) :
    Ranking.IsOrder fun i j => isBetter (index.hitAt query i) (index.hitAt query j) where
  asymm i j better := by
    have less : (index.hitAt query j).score < (index.hitAt query i).score := of_decide_eq_true better
    exact decide_eq_false fun more =>
      Single.not_lt_self _ (Single.lt_of_lt_of_le less (Single.le_of_lt more))
  splits i j k better := by
    have less : (index.hitAt query k).score < (index.hitAt query i).score := of_decide_eq_true better
    by_cases beats : (index.hitAt query i).score > (index.hitAt query j).score
    · exact .inl (decide_eq_true beats)
    · refine .inr (decide_eq_true ?_)
      exact Single.lt_of_lt_of_le less (Single.le_of_not_lt (numbers i) (numbers j) beats)

/-- **The hits are the places that are ahead of all others**, in that order. -/
theorem exists_places (k : Nat) (numbers : ∀ i, (index.hitAt query i).score.isNaN = false) :
    ∃ places : List (Fin index.entries.size),
      index.search? query k = some (places.map (index.hitAt query)) ∧
      places.Nodup ∧ places.length = min k index.entries.size ∧
      places.Pairwise (index.Leads query) ∧
      ∀ j ∉ places, ∀ i ∈ places, index.Leads query i j := by
  have order := index.isOrder_hitAt query numbers
  generalize ranks : Ranking.inserted
    (fun i j => isBetter (index.hitAt query i) (index.hitAt query j)) []
    (List.finRange index.entries.size) = ranked
  have perm : ranked.Perm (List.finRange index.entries.size) :=
    ranks ▸ Ranking.inserted_perm _ [] _
  -- The places are ranked as they are numbered, so of equal scores the lower place is ahead.
  have ordered : ranked.Pairwise (index.Leads query) := by
    refine (ranks ▸ Ranking.pairwise_inserted order (List.pairwise_lt_finRange _)).imp ?_
    rintro i j ⟨behind, tie⟩
    refine ⟨Single.le_of_not_lt (numbers j) (numbers i) (of_decide_eq_false behind), fun equal => ?_⟩
    exact tie (decide_eq_false fun more =>
      Single.not_lt_self _ (Single.lt_of_le_of_lt equal more))
  have found : index.search? query k = some ((ranked.take k).map (index.hitAt query)) := by
    have plain : ∀ entry ∈ index.entries.toList, (query.dot entry.vector).isNaN = false := by
      intro entry mem
      obtain ⟨i, bound, rfl⟩ := List.getElem_of_mem mem
      exact numbers ⟨i, by simpa using bound⟩
    rw [search?_eq_inserted index query k (.inl plain), scores_eq_map, Ranking.inserted_map, ranks,
      List.map_take]
  refine ⟨ranked.take k, found, ?_, ?_, ordered.sublist (List.take_sublist _ _), ?_⟩
  · exact (perm.nodup_iff.mpr (List.nodup_finRange _)).sublist (List.take_sublist _ _)
  · rw [List.length_take, perm.length_eq, List.length_finRange]
  · intro j out i mem
    have all : j ∈ ranked.take k ++ ranked.drop k := by
      rw [List.take_append_drop]
      exact perm.mem_iff.mpr (List.mem_finRange j)
    have rest := (List.mem_append.mp all).resolve_left out
    rw [← List.take_append_drop k ranked] at ordered
    exact (List.pairwise_append.mp ordered).2.2 i mem j rest

/-- **A search gives the best hits.** After any submissions and searches the index is that
of the submissions. If all similarities to a query are numbers, a search for `k` hits
leaves the index as it is, and finds `k` places, or all if there are fewer, each once. A
hit ahead of another has no lower similarity, and was stored before it if they are equal;
an entry that is left out has no higher similarity than any hit, and was stored after it
if they are equal. -/
theorem search_ranked (tasks : List Task) (k : Nat) :
    let reached := (index.performAll tasks).1
    let score (i : Fin reached.entries.size) : Float32 := query.dot reached.entries[i].vector
    let ahead (i j : Fin reached.entries.size) : Prop :=
      score j ≤ score i ∧ (score i ≤ score j → i < j)
    reached = (index.submitAll (tasks.filterMap Task.submitted?)).1 ∧
    ((∀ i, (score i).isNaN = false) →
      ∃ places : List (Fin reached.entries.size),
        reached.perform (.search query k)
          = (reached, .found (some (places.map fun i => ⟨reached.entries[i].id, score i⟩))) ∧
        places.Nodup ∧ places.length = min k reached.entries.size ∧
        places.Pairwise ahead ∧ ∀ j ∉ places, ∀ i ∈ places, ahead i j) := by
  intro reached score ahead
  refine ⟨index.performAll_index tasks, fun numbers => ?_⟩
  obtain ⟨places, found, distinct, count, ordered, behind⟩ :=
    reached.exists_places query k numbers
  refine ⟨places, ?_, distinct, count, ordered, behind⟩
  rw [perform, found]
  rfl

/-- Of the similarities 1, -0, 0 and -1 the best two are those of the first two entries:
the two zeros are equal, and the negative one was stored first. -/
theorem search_ranked_zeros :
    let tasks : List Task := [.submit ⟨"a", #[1.0, 0.0]⟩, .search #[1.0] 1,
      .submit ⟨"b", #[-0.0, -1.0]⟩, .submit ⟨"c", #[0.0, 1.0]⟩, .submit ⟨"d", #[-1.0, 0.0]⟩]
    let reached := ((empty 0.9).performAll tasks).1
    let query : Vector32 := #[1.0, 0.0]
    reached.ids = ["a", "b", "c", "d"] ∧
      (∀ entry ∈ reached.entries, (query.dot entry.vector).isNaN = false) ∧
      (reached.search? query 2).map (·.map (·.id)) = some ["a", "b"] ∧
      ∃ places : List (Fin reached.entries.size),
        reached.perform (.search query 2) = (reached, .found (some (places.map fun i =>
          ⟨reached.entries[i].id, query.dot reached.entries[i].vector⟩))) ∧
        places.Nodup ∧ places.length = 2 := by
  intro tasks reached query
  have two : min 2 reached.entries.size = 2 := by decide +kernel
  have numbers : ∀ entry ∈ reached.entries, (query.dot entry.vector).isNaN = false := by
    decide +kernel
  obtain ⟨-, ranked⟩ := search_ranked (empty 0.9) query tasks 2
  obtain ⟨places, found, distinct, count, -⟩ := ranked fun i => numbers _ (Array.getElem_mem i.isLt)
  exact ⟨by decide +kernel, numbers, by decide +kernel, places, found, distinct, count.trans two⟩

end Index

end DocSieve
