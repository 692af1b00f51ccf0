import DocSieve.Proofs.Index.Submission

/-!
# The stored vectors are apart

A vector is stored only when its similarity to everything stored before is below
the threshold, and what is stored never changes. So of any two stored vectors the
similarity of the later to the earlier does not reach the threshold, whatever the
vectors hold: NaN, infinities and vectors of different lengths included. The
stored vectors also cover what was submitted: a document that is not stored has a
stored one that its similarity reaches.

Key definitions: `Index.Apart`.
Key theorems: `Index.Apart.submit`, `Index.covered`, `Index.stored_apart`.
-/

namespace DocSieve

namespace Index

/-- The threshold is above zero, and no similarity of a stored vector to an earlier
one reaches it. -/
structure Apart (index : Index) : Prop where
  aligned : index.Aligned
  positive : (0.0 : Float32) < index.threshold
  apart : index.entries.toList.Pairwise fun earlier later =>
    ¬ later.vector.dot earlier.vector ≥ index.threshold

theorem apart_of_create? {threshold : Float32} {capacity : UInt64} {index : Index}
    (made : create? threshold capacity = .ok index) :
    index.threshold = threshold ∧ index.Apart := by
  obtain ⟨accepted, rfl⟩ := eq_of_create? made
  refine ⟨rfl, aligned_empty threshold, positive_of_accepts accepted, ?_⟩
  rw [entries_empty]
  exact List.Pairwise.nil

theorem Apart.submit {index : Index} (h : index.Apart) (doc : EmbeddedDocument) :
    (index.submit doc).1.Apart := by
  obtain ⟨-, eq⟩ | ⟨notDup, eq⟩ := index.submit_cases doc
  · rw [eq]
    exact h
  -- A vector is appended only if no stored one reaches the threshold with it.
  have below : ∀ entry ∈ index.entries, ¬ doc.embedding.dot entry.vector ≥ index.threshold := by
    intro entry stored reached
    have dup := (index.isDuplicate_iff h.positive doc).mpr ⟨entry, stored, reached⟩
    rw [notDup] at dup
    cases dup
  rw [eq]
  refine ⟨h.aligned.store doc, h.positive, ?_⟩
  rw [h.aligned.entries_store, Array.toList_push, List.pairwise_append]
  refine ⟨h.apart, List.pairwise_singleton _ _, ?_⟩
  intro earlier mem later new
  obtain rfl := List.mem_singleton.mp new
  exact below earlier (Array.mem_toList_iff.mp mem)

theorem covered {index : Index} (aligned : index.Aligned)
    (positive : (0.0 : Float32) < index.threshold) (doc : EmbeddedDocument) :
    ⟨doc.id, doc.embedding⟩ ∈ (index.submit doc).1.entries.toList ∨
      ∃ entry ∈ (index.submit doc).1.entries.toList,
        doc.embedding.dot entry.vector ≥ index.threshold := by
  rw [submit_entries aligned doc]
  by_cases dup : (index.decide doc).isDuplicate
  · obtain ⟨entry, stored, reached⟩ := (index.isDuplicate_iff positive doc).mp dup
    exact .inr ⟨entry, List.mem_append_left _ (Array.mem_toList_iff.mpr stored), reached⟩
  · exact .inl (List.mem_append_right _ (by simp [dup]))

theorem covered_all {index : Index} (aligned : index.Aligned)
    (positive : (0.0 : Float32) < index.threshold) (docs : List EmbeddedDocument) :
    ∀ doc ∈ docs, ⟨doc.id, doc.embedding⟩ ∈ (index.submitAll docs).1.entries.toList ∨
      ∃ entry ∈ (index.submitAll docs).1.entries.toList,
        doc.embedding.dot entry.vector ≥ index.threshold := by
  induction docs generalizing index with
  | nil => simp
  | cons first docs ih =>
    have keep := entries_kept (aligned.submit first) docs
    have same := index.submit_threshold first
    intro doc mem
    rcases List.mem_cons.mp mem with rfl | mem
    · exact (covered aligned positive doc).imp (fun stored => keep.subset stored)
        fun ⟨entry, stored, reached⟩ => ⟨entry, keep.subset stored, reached⟩
    · have later := ih (aligned.submit first) (by rwa [same]) doc mem
      rwa [same] at later

/-- **The stored vectors are apart and cover what was submitted.** From an empty
index with a threshold that it accepts, after any submissions: the similarity of a
stored vector to one stored before it does not reach the threshold, and every
document submitted is stored or reaches the threshold with a stored one. -/
theorem stored_apart {threshold : Float32} {capacity : UInt64} {index : Index}
    (made : create? threshold capacity = .ok index) (docs : List EmbeddedDocument) :
    let stored := (index.submitAll docs).1.entries
    (∀ i j, (less : i < j) → (bound : j < stored.size) →
      ¬ stored[j].vector.dot stored[i].vector ≥ threshold) ∧
    ∀ doc ∈ docs, ⟨doc.id, doc.embedding⟩ ∈ stored ∨
      ∃ entry ∈ stored, doc.embedding.dot entry.vector ≥ threshold := by
  intro stored
  obtain ⟨rfl, start⟩ := apart_of_create? made
  have last : (index.submitAll docs).1.Apart :=
    submitAll_invariant (fun _ doc h => h.submit doc) docs start
  constructor
  · intro i j less bound reached
    have apart := List.pairwise_iff_getElem.mp last.apart i j (less.trans bound) bound less
    rw [submitAll_threshold] at apart
    exact apart reached
  · intro doc mem
    simpa only [Array.mem_toList_iff] using covered_all start.aligned start.positive docs doc mem

/-- Of four documents the second repeats the first, the third is perpendicular to
it, and the fourth is stored for its score is NaN. -/
theorem stored_apart_four :
    let docs : List EmbeddedDocument :=
      [⟨"a", #[1.0, 0.0]⟩, ⟨"b", #[0.5, 0.5]⟩, ⟨"c", #[0.0, 1.0]⟩, ⟨"d", #[0.0 / 0.0]⟩]
    let stored := ((empty 0.5).submitAll docs).1.entries
    create? 0.5 4 = .ok (.empty 0.5) ∧
    (stored.map (·.id)).toList = ["a", "c", "d"] ∧
    (∀ i j, (less : i < j) → (bound : j < stored.size) →
      ¬ stored[j].vector.dot stored[i].vector ≥ 0.5) ∧
    ∀ doc ∈ docs, ⟨doc.id, doc.embedding⟩ ∈ stored ∨
      ∃ entry ∈ stored, doc.embedding.dot entry.vector ≥ 0.5 :=
  have made : create? 0.5 4 = .ok (.empty 0.5) := by rfl
  ⟨made, by decide +kernel, stored_apart made _⟩

end Index

end DocSieve
