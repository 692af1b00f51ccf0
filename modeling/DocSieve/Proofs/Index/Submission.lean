import DocSieve.Proofs.Index.Nearest

/-!
# Submissions in a row

A submission either is a duplicate and leaves the index as it is, or is none and
appends the document's name to the names and its vector to the vectors (`submit_cases`).
So names and vectors stay equally many (`Index.Aligned`), and as long as they are, every
name and every vector belongs to one entry at its place: nothing is lost when the two
arrays are zipped (`Index.Aligned.names_eq`, `Index.Aligned.vectors_eq`). What one
submission keeps, a row of them keeps (`submitAll_invariant`); the threshold and the
entries that are already there are kept by every one.

Key definitions: `Index.submitAll`, `Index.Aligned`.
Key theorems: `Index.submit_cases`, `Index.isDuplicate_iff`,
`Index.submitAll_invariant`, `Index.Aligned.submitAll`, `Index.submitAll_getElem?`,
`Index.entries_kept`.
-/

namespace DocSieve

namespace Index

/-- The index after some documents, with the decisions on them, in order. -/
def submitAll : Index → List EmbeddedDocument → Index × List Decision
  | index, [] => (index, [])
  | index, doc :: docs =>
    let (next, decision) := index.submit doc
    let (last, decisions) := next.submitAll docs
    (last, decision :: decisions)

theorem eq_of_create? {threshold : Float32} {capacity : UInt64} {index : Index}
    (made : create? threshold capacity = .ok index) :
    acceptsThreshold threshold = true ∧ index = .empty threshold := by
  unfold create? at made
  split at made
  · cases made
  rename_i accepted
  split at made
  · cases made
  cases made
  exact ⟨by simpa using accepted, rfl⟩

variable (index : Index)

@[simp]
theorem submitAll_nil : index.submitAll [] = (index, []) := rfl

@[simp]
theorem submitAll_cons (doc : EmbeddedDocument) (docs : List EmbeddedDocument) :
    index.submitAll (doc :: docs)
      = (((index.submit doc).1.submitAll docs).1,
        (index.submit doc).2 :: ((index.submit doc).1.submitAll docs).2) := rfl

/-- What a submission does. -/
theorem submit_cases (doc : EmbeddedDocument) :
    ((index.decide doc).isDuplicate = true ∧ index.submit doc = (index, index.decide doc)) ∨
    ((index.decide doc).isDuplicate = false ∧
      index.submit doc = (index.store doc, index.decide doc)) := by
  unfold submit
  by_cases dup : (index.decide doc).isDuplicate
  · exact .inl ⟨dup, by simp [dup]⟩
  · exact .inr ⟨by simpa using dup, by simp [dup]⟩

theorem submit_of_duplicate {index : Index} {doc : EmbeddedDocument}
    (dup : (index.decide doc).isDuplicate = true) : (index.submit doc).1 = index := by
  obtain ⟨-, eq⟩ | ⟨notDup, -⟩ := index.submit_cases doc
  · rw [eq]
  · rw [dup] at notDup
    cases notDup

theorem submit_of_new {index : Index} {doc : EmbeddedDocument}
    (new : (index.decide doc).isDuplicate = false) :
    (index.submit doc).1 = index.store doc := by
  obtain ⟨dup, -⟩ | ⟨-, eq⟩ := index.submit_cases doc
  · rw [new] at dup
    cases dup
  · rw [eq]

@[simp]
theorem submit_decision (doc : EmbeddedDocument) : (index.submit doc).2 = index.decide doc := by
  obtain ⟨-, eq⟩ | ⟨-, eq⟩ := index.submit_cases doc <;> rw [eq]

@[simp]
theorem store_threshold (doc : EmbeddedDocument) :
    (index.store doc).threshold = index.threshold := rfl

@[simp]
theorem decide_id (doc : EmbeddedDocument) : (index.decide doc).id = doc.id := rfl

@[simp]
theorem submit_threshold (doc : EmbeddedDocument) :
    (index.submit doc).1.threshold = index.threshold := by
  obtain ⟨-, eq⟩ | ⟨-, eq⟩ := index.submit_cases doc
  · rw [eq]
  · rw [eq, store_threshold]

theorem isDuplicate_iff (positive : (0.0 : Float32) < index.threshold) (doc : EmbeddedDocument) :
    (index.decide doc).isDuplicate = true ↔
      ∃ entry ∈ index.entries, doc.embedding.dot entry.vector ≥ index.threshold := by
  unfold decide judge
  rw [decide_eq_true_iff]
  exact index.reaches_iff doc.embedding positive

/-- What holds of an index and is kept by every submission holds after a row of them. -/
theorem submitAll_invariant {P : Index → Prop}
    (kept : ∀ (index : Index) (doc : EmbeddedDocument), P index → P (index.submit doc).1)
    (docs : List EmbeddedDocument) {index : Index} (h : P index) : P (index.submitAll docs).1 := by
  induction docs generalizing index with
  | nil => exact h
  | cons doc docs ih => exact ih (kept index doc h)

/-! ### Names and vectors -/

/-- There are as many names as vectors. -/
def Aligned : Prop := index.names.size = index.vectors.size

theorem entries_eq_map_zip : index.entries.toList =
    (index.names.toList.zip index.vectors.toList).map fun p => ⟨p.1, p.2⟩ := by
  rw [entries_toList]
  exact List.map_uncurry_zip_eq_zipWith.symm

theorem id_mem_of_mem_entries {entry : Entry} (stored : entry ∈ index.entries) :
    entry.id ∈ index.ids := by
  rw [← Array.mem_toList_iff, entries_eq_map_zip] at stored
  obtain ⟨_, zipped, rfl⟩ := List.mem_map.mp stored
  exact (List.of_mem_zip zipped).1

@[simp]
theorem entries_empty (threshold : Float32) : (empty threshold).entries = #[] := by
  simp [entries, empty]

theorem aligned_empty (threshold : Float32) : (empty threshold).Aligned := rfl

variable {index}

namespace Aligned

theorem size_entries (aligned : index.Aligned) : index.entries.size = index.size := by
  rw [entries, Array.size_zipWith, ← aligned, Nat.min_self, size]

theorem names_eq (aligned : index.Aligned) :
    index.names.toList = index.entries.toList.map (·.id) := by
  have lengths : index.names.toList.length = index.vectors.toList.length := aligned
  rw [entries_eq_map_zip, List.map_map]
  exact (List.map_fst_zip lengths.le).symm

theorem vectors_eq (aligned : index.Aligned) :
    index.vectors.toList = index.entries.toList.map (·.vector) := by
  have lengths : index.names.toList.length = index.vectors.toList.length := aligned
  rw [entries_eq_map_zip, List.map_map]
  exact (List.map_snd_zip lengths.ge).symm

/-- **The two pushes store one entry.** -/
theorem entries_store (aligned : index.Aligned) (doc : EmbeddedDocument) :
    (index.store doc).entries = index.entries.push ⟨doc.id, doc.embedding⟩ := by
  have lengths : index.names.toList.length = index.vectors.toList.length := aligned
  refine Array.toList_inj.mp ?_
  rw [entries_toList, Array.toList_push, entries_toList, store, Array.toList_push,
    Array.toList_push, List.zipWith_append lengths]
  rfl

theorem store (aligned : index.Aligned) (doc : EmbeddedDocument) : (index.store doc).Aligned := by
  unfold Aligned at *
  rw [Index.store, Array.size_push, Array.size_push, aligned]

/-- **A submission leaves as many names as vectors.** -/
theorem submit (aligned : index.Aligned) (doc : EmbeddedDocument) :
    (index.submit doc).1.Aligned := by
  obtain ⟨-, eq⟩ | ⟨-, eq⟩ := index.submit_cases doc
  · rw [eq]
    exact aligned
  · rw [eq]
    exact aligned.store doc

/-- So does a row of them. -/
theorem submitAll (aligned : index.Aligned) (docs : List EmbeddedDocument) :
    (index.submitAll docs).1.Aligned :=
  submitAll_invariant (fun _ doc h => h.submit doc) docs aligned

end Aligned

/-- A submission keeps the entries and adds at most its own. -/
theorem submit_entries (aligned : index.Aligned) (doc : EmbeddedDocument) :
    (index.submit doc).1.entries.toList = index.entries.toList
      ++ if (index.decide doc).isDuplicate then [] else [⟨doc.id, doc.embedding⟩] := by
  obtain ⟨dup, eq⟩ | ⟨dup, eq⟩ := index.submit_cases doc <;> simp [eq, dup, aligned.entries_store]

theorem entries_kept (aligned : index.Aligned) (docs : List EmbeddedDocument) :
    index.entries.toList <+: (index.submitAll docs).1.entries.toList := by
  refine (submitAll_invariant
    (P := fun i => i.Aligned ∧ index.entries.toList <+: i.entries.toList) ?_ docs
    ⟨aligned, List.prefix_refl _⟩).2
  rintro i doc ⟨aligned, h⟩
  rw [submit_entries aligned doc]
  exact ⟨aligned.submit doc, h.trans (List.prefix_append _ _)⟩

/-! ### Rows -/

variable (index)

theorem submitAll_append (docs more : List EmbeddedDocument) :
    index.submitAll (docs ++ more)
      = (((index.submitAll docs).1.submitAll more).1,
        (index.submitAll docs).2 ++ ((index.submitAll docs).1.submitAll more).2) := by
  induction docs generalizing index with
  | nil => rfl
  | cons doc docs ih => simp [ih]

theorem submitAll_ids (docs : List EmbeddedDocument) :
    (index.submitAll docs).2.map (·.id) = docs.map (·.id) := by
  induction docs generalizing index with
  | nil => rfl
  | cons doc docs ih => simp [ih]

@[simp]
theorem submitAll_length (docs : List EmbeddedDocument) :
    (index.submitAll docs).2.length = docs.length := by
  simpa using congrArg List.length (index.submitAll_ids docs)

theorem submitAll_take (docs : List EmbeddedDocument) (i : Nat) :
    (index.submitAll (docs.take i)).2 = (index.submitAll docs).2.take i := by
  induction docs generalizing index i with
  | nil => simp
  | cons doc docs ih =>
    cases i with
    | zero => rfl
    | succ i => simp [ih]

/-- A decision is made on what the documents before it have left. -/
theorem submitAll_getElem? (docs : List EmbeddedDocument) (i : Nat) : (index.submitAll docs).2[i]?
    = docs[i]?.map (index.submitAll (docs.take i)).1.decide := by
  induction docs generalizing index i with
  | nil => simp
  | cons doc docs ih =>
    cases i with
    | zero => simp
    | succ i => simp [ih]

@[simp]
theorem submitAll_threshold (docs : List EmbeddedDocument) :
    (index.submitAll docs).1.threshold = index.threshold :=
  submitAll_invariant (P := (·.threshold = index.threshold))
    (fun i doc h => (i.submit_threshold doc).trans h) docs rfl

end Index

end DocSieve
