import DocSieve.Proofs.Index.Exactness
import DocSieve.Proofs.Index.Repetition
import DocSieve.Proofs.Numeric.Zeros

/-!
# A vector of zeros matches nothing

The similarity of a vector of zeros to a finite one is a zero, and no zero is above the
zero that the search for the nearest entry starts with. So such a vector is no duplicate
and has no nearest entry, and once it is stored it is never the nearest entry of a finite
vector. More than that, an entry whose similarity is not above zero leaves the search as
it was (`nearest_without`), so by induction over a row of submissions it can be taken out
of the index without a decision being changed (`submitAll_without`). The vector of a text
without letters is one of zeros (`Embedder.embedDocument_of_letterless`).

Key definitions: `Index.without`.
Key theorems: `Index.nearest_without`, `Index.submitAll_without`,
`Embedder.embedDocument_of_letterless`, `Index.zeros_never_nearest`.
-/

namespace DocSieve

/-! ### Texts without letters -/

theorem maximalRuns_of_none {keep : Char → Bool} {text : List Char}
    (none : text.any keep = false) : maximalRuns keep text = [] := by
  have empty : text.foldr (extendRuns keep) ([], []) = ([], []) := by
    induction text with
    | nil => rfl
    | cons c text ih =>
      rw [List.any_cons, Bool.or_eq_false_iff] at none
      rw [List.foldr_cons, ih none.2, extendRuns, none.1]
      rfl
  unfold maximalRuns
  rw [empty]
  rfl

/-- **The vector of a text without letters is one of zeros.** -/
theorem Embedder.embedDocument_of_letterless {e : Embedder} (fits : e.fits = true) {text : String}
    (letterless : (lowerCase text.toList).any isAlphabetic = false) (id : String) :
    e.embedDocument (Document.tokenize ⟨id, text⟩)
      = .ok ⟨id, Vector32.zeros e.dimensions.toNat⟩ := by
  refine embedDocument_tokenize_iff.mpr ⟨?_, rfl⟩
  rw [terms, maximalRuns_of_none letterless, List.map_nil, embed, if_pos fits, counts,
    List.foldl_nil, Vector32.normalize_of_allZero (Vector32.allZero_zeros _)]
  rfl

namespace Index

/-! ### Entries that can be taken out -/

theorem foldl_better_skip {earlier later : List Hit} {hit : Hit} (low : ¬ hit.score > 0.0) :
    (earlier ++ hit :: later).foldl better ⟨"", 0.0⟩
      = (earlier ++ later).foldl better ⟨"", 0.0⟩ := by
  have stays : better (earlier.foldl better ⟨"", 0.0⟩) hit = earlier.foldl better ⟨"", 0.0⟩ := by
    refine if_neg fun more => ?_
    rcases foldl_better_cases ⟨"", 0.0⟩ earlier with ⟨same, -⟩ | ⟨_, best, _, -, same, above, -⟩
    · rw [same] at more
      exact low more
    · rw [same] at more
      exact low (Single.lt_of_le_of_lt (Single.le_of_lt above) more)
  rw [List.foldl_append, List.foldl_cons, stays, ← List.foldl_append]

/-- The index without the name and the vector at a place. -/
def without (index : Index) (place : Nat) : Index :=
  { index with
    names := index.names.eraseIdxIfInBounds place
    vectors := index.vectors.eraseIdxIfInBounds place }

variable {index : Index} {place : Nat} {entry : Entry}

theorem entries_without (aligned : index.Aligned) (place : Nat) :
    (index.without place).entries.toList = index.entries.toList.eraseIdx place := by
  have lengths : index.names.toList.length = index.vectors.toList.length := aligned
  rw [entries_toList, entries_toList, without, Array.toList_eraseIdxIfInBounds,
    Array.toList_eraseIdxIfInBounds, List.eraseIdx_eq_take_drop_succ,
    List.eraseIdx_eq_take_drop_succ, List.eraseIdx_eq_take_drop_succ,
    List.zipWith_append (by rw [List.length_take, List.length_take, lengths]),
    List.take_zipWith, List.drop_zipWith]

/-- What is stored after the place is not moved by taking it out before or afterwards. -/
theorem store_without (aligned : index.Aligned) (bound : place < index.size)
    (doc : EmbeddedDocument) :
    (index.without place).store doc = (index.store doc).without place := by
  have names : place < index.names.toList.length := bound
  have vectors : place < index.vectors.toList.length := Nat.lt_of_lt_of_eq bound aligned
  refine congrArg₂ (Index.mk index.threshold) (Array.toList_inj.mp ?_) (Array.toList_inj.mp ?_)
  · rw [Array.toList_push, without, Array.toList_eraseIdxIfInBounds,
      Array.toList_eraseIdxIfInBounds, store, Array.toList_push,
      List.eraseIdx_append_of_lt_length names]
  · rw [Array.toList_push, without, Array.toList_eraseIdxIfInBounds,
      Array.toList_eraseIdxIfInBounds, store, Array.toList_push,
      List.eraseIdx_append_of_lt_length vectors]

theorem split_at (aligned : index.Aligned) (stored : index.entries[place]? = some entry) :
    ∃ earlier later, index.entries.toList = earlier ++ entry :: later ∧
      (index.without place).entries.toList = earlier ++ later ∧ earlier.length = place := by
  obtain ⟨bound, here⟩ := Array.getElem?_eq_some_iff.mp stored
  refine ⟨index.entries.toList.take place, index.entries.toList.drop (place + 1), ?_, ?_, ?_⟩
  · rw [← here, ← Array.getElem_toList, List.getElem_cons_drop, List.take_append_drop]
  · rw [entries_without aligned, List.eraseIdx_eq_take_drop_succ]
  · rw [List.length_take, Array.length_toList]
    omega

/-- **An entry that is not similar can be taken out** as far as one query goes. -/
theorem nearest_without (aligned : index.Aligned)
    (stored : index.entries[place]? = some entry) {query : Vector32}
    (low : ¬ query.dot entry.vector > 0.0) :
    (index.without place).nearest query = index.nearest query := by
  obtain ⟨earlier, later, entries, rest, -⟩ := split_at aligned stored
  unfold nearest
  rw [← Array.foldl_toList, ← Array.foldl_toList, scores_toList, scores_toList, entries, rest,
    List.map_append, List.map_append, List.map_cons]
  refine (foldl_better_skip ?_).symm
  exact low

theorem stored_submitAll (aligned : index.Aligned)
    (stored : index.entries[place]? = some entry) (docs : List EmbeddedDocument) :
    (index.submitAll docs).1.entries[place]? = some entry := by
  obtain ⟨more, entries⟩ := entries_kept aligned docs
  obtain ⟨bound, -⟩ := Array.getElem?_eq_some_iff.mp stored
  rw [← Array.getElem?_toList] at stored ⊢
  rwa [← entries, List.getElem?_append_left (by simpa using bound)]

theorem submit_without (aligned : index.Aligned)
    (stored : index.entries[place]? = some entry) {doc : EmbeddedDocument}
    (low : ¬ doc.embedding.dot entry.vector > 0.0) :
    (index.without place).submit doc
      = ((index.submit doc).1.without place, (index.submit doc).2) := by
  have same : (index.without place).decide doc = index.decide doc := by
    unfold decide
    rw [nearest_without aligned stored low]
    rfl
  obtain ⟨bound, -⟩ := Array.getElem?_eq_some_iff.mp stored
  rw [aligned.size_entries] at bound
  rcases (index.without place).submit_cases doc with ⟨dup, eq⟩ | ⟨new, eq⟩
  · rw [same] at dup
    rw [eq, same, submit_of_duplicate dup, submit_decision]
  · rw [same] at new
    rw [eq, same, submit_decision, submit_of_new new, store_without aligned bound]

/-- **An entry that is never similar can be taken out.** The decisions are the same, and
the index ends the same but for that entry. -/
theorem submitAll_without (aligned : index.Aligned)
    (stored : index.entries[place]? = some entry) {docs : List EmbeddedDocument}
    (low : ∀ doc ∈ docs, ¬ doc.embedding.dot entry.vector > 0.0) :
    (index.without place).submitAll docs
      = ((index.submitAll docs).1.without place, (index.submitAll docs).2) := by
  induction docs generalizing index with
  | nil => rfl
  | cons doc docs ih =>
    rw [List.forall_mem_cons] at low
    have kept : (index.submit doc).1.entries[place]? = some entry :=
      stored_submitAll aligned stored [doc]
    rw [submitAll_cons, submit_without aligned stored low.1, ih (aligned.submit doc) kept low.2,
      submitAll_cons]

/-! ### Vectors of zeros -/

theorem decide_of_allZero (accepted : acceptsThreshold index.threshold = true)
    (finite : ∀ entry ∈ index.entries, entry.vector.AllFinite) {doc : EmbeddedDocument}
    (zeros : doc.embedding.AllZero) : index.decide doc = ⟨doc.id, false, "", 0.0⟩ := by
  have nearest : index.nearest doc.embedding = ⟨"", 0.0⟩ := by
    rcases index.nearest_cases doc.embedding with
      ⟨none, -⟩ | ⟨earlier, entry, later, entries, -, above, -⟩
    · exact none
    · have stored : entry ∈ index.entries := Array.mem_toList_iff.mp (by simp [entries])
      exact absurd above (Vector32.isZero_dot_left zeros (finite entry stored)).not_above
  unfold decide judge
  rw [nearest]
  dsimp only
  rw [decide_eq_false (not_reached_by_zero (positive_of_accepts accepted))]

/-- **A vector of zeros matches nothing.** In an index with as many names as vectors, an
accepted threshold and finite vectors (any submissions leave the names and the vectors so,
`Aligned.submitAll`) it is no duplicate, has no nearest entry, and is stored. Whatever is
submitted afterwards, it is not the nearest entry of a finite vector: where there is one it
stands at another place. And if it is taken out of the index at any time, the decisions on
all finite vectors submitted from then on are the same, and the index ends the same but for
it. -/
theorem zeros_never_nearest (aligned : index.Aligned)
    (accepted : acceptsThreshold index.threshold = true)
    (finite : ∀ entry ∈ index.entries, entry.vector.AllFinite)
    {doc : EmbeddedDocument} (zeros : doc.embedding.AllZero) :
    let place := index.entries.size
    let after := (index.submit doc).1
    (index.submit doc).2 = ⟨doc.id, false, "", 0.0⟩ ∧
    after.entries = index.entries.push ⟨doc.id, doc.embedding⟩ ∧
    ∀ docs : List EmbeddedDocument,
      let later := (after.submitAll docs).1
      later.entries[place]? = some ⟨doc.id, doc.embedding⟩ ∧
      (∀ other : EmbeddedDocument, other.embedding.AllFinite →
        let decision := (later.submit other).2
        (decision.nearestId = "" ∧ decision.similarity = 0.0) ∨
        ∃ i, ∃ bound : i < later.entries.size, i ≠ place ∧
          decision.nearestId = later.entries[i].id ∧
          decision.similarity = other.embedding.dot later.entries[i].vector ∧
          decision.similarity > 0.0 ∧ ∀ j, (less : j < i) →
            ¬ other.embedding.dot later.entries[j].vector ≥ decision.similarity) ∧
      ∀ more : List EmbeddedDocument, (∀ other ∈ more, other.embedding.AllFinite) →
        (later.without place).submitAll more
          = ((later.submitAll more).1.without place, (later.submitAll more).2) := by
  intro place after
  have decided := decide_of_allZero accepted finite zeros
  have stored : after.entries = index.entries.push ⟨doc.id, doc.embedding⟩ := by
    rw [← aligned.entries_store, ← submit_of_new (by rw [decided])]
  have low (other : EmbeddedDocument) (finite : other.embedding.AllFinite) :
      ¬ other.embedding.dot doc.embedding > 0.0 :=
    (Vector32.isZero_dot_right finite zeros).not_above
  refine ⟨(index.submit_decision doc).trans decided, stored, fun docs => ?_⟩
  intro later
  have here : later.entries[place]? = some ⟨doc.id, doc.embedding⟩ :=
    stored_submitAll (aligned.submit doc) (by rw [stored, Array.getElem?_push_size]) docs
  refine ⟨here, fun other finite => ?_, fun more finite =>
    submitAll_without ((aligned.submit doc).submitAll docs) here fun other mem =>
      low other (finite other mem)⟩
  intro decision
  have same : decision = later.decide other := later.submit_decision other
  rw [same]
  by_cases above : (later.nearest other.embedding).score > 0.0
  · obtain ⟨i, bound, nearest, earliest⟩ := later.nearest_first other.embedding above
    have score := congrArg Hit.score nearest
    refine .inr ⟨i, bound, fun same => ?_, congrArg Hit.id nearest, score, above, earliest⟩
    subst same
    obtain ⟨_, entry⟩ := Array.getElem?_eq_some_iff.mp here
    rw [score, entry] at above
    exact low other finite above
  · have none := later.nearest_of_not_above other.embedding above
    exact .inl ⟨congrArg Hit.id none, congrArg Hit.score none⟩

/-- A text without letters between two others. The first one is nearest to what comes after
them, and is so as well once the text without letters is taken out. -/
theorem zeros_never_nearest_digits :
    let index := ((empty 0.9).submitAll [⟨"a", #[1.0, 0.0]⟩]).1
    let doc : EmbeddedDocument := ⟨"b", Vector32.zeros 2⟩
    let later := ((index.submit doc).1.submitAll [⟨"c", #[-0.0, 1.0]⟩]).1
    let more : List EmbeddedDocument := [⟨"d", #[0.8, 0.6]⟩, ⟨"e", #[0.0, -1.0]⟩]
    pairEmbedder.embedDocument (Document.tokenize ⟨"b", "4 2!"⟩) = .ok doc ∧
      index.Aligned ∧ acceptsThreshold index.threshold = true ∧
      (∀ entry ∈ index.entries, entry.vector.AllFinite) ∧ doc.embedding.AllZero ∧
      (index.submit doc).2 = ⟨"b", false, "", 0.0⟩ ∧ later.ids = ["a", "b", "c"] ∧
      (∀ other ∈ more, other.embedding.AllFinite) ∧
      (later.submitAll more).2.map (·.nearestId) = ["a", ""] ∧
      (later.without 1).submitAll more
        = ((later.submitAll more).1.without 1, (later.submitAll more).2) := by
  intro index doc later more
  have aligned : index.Aligned := (aligned_empty 0.9).submitAll _
  have accepted : acceptsThreshold index.threshold = true := by decide +kernel
  have finite : ∀ entry ∈ index.entries, ∀ x ∈ entry.vector, x.isFinite = true := by
    decide +kernel
  have finite_more : ∀ other ∈ more, ∀ x ∈ other.embedding, x.isFinite = true := by
    decide +kernel
  have zeros : doc.embedding.AllZero := Vector32.allZero_zeros 2
  obtain ⟨decision, -, afterwards⟩ := zeros_never_nearest aligned accepted finite zeros
  obtain ⟨-, -, same⟩ := afterwards [⟨"c", #[-0.0, 1.0]⟩]
  have second : index.entries.size = 1 := by decide +kernel
  rw [second] at same
  exact ⟨Embedder.embedDocument_of_letterless (by decide) (by decide +kernel) "b", aligned,
    accepted, finite, zeros, decision, by decide +kernel, finite_more, by decide +kernel,
    same more finite_more⟩

end Index

end DocSieve
