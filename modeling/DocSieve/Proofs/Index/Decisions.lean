import DocSieve.Proofs.Index.Submission

/-!
# Decisions in a row

A row of submissions stores the documents that are no duplicates, in order, under
their own names (`submitAll_stored`). A duplicate names a stored document, for a
score that reaches a threshold above zero is an entry's. If the names are distinct,
each document is a duplicate or stored but not both, and a duplicate names another
document than itself, because its own name is not stored before it.

Key theorems: `Index.submitAll_stored`, `Index.nearest_of_duplicate`,
`Index.stored_iff`.
-/

namespace DocSieve

namespace Index

variable (index : Index)

theorem length_ids : index.ids.length = index.size := Array.length_toList

theorem submit_ids (doc : EmbeddedDocument) : (index.submit doc).1.ids
    = index.ids ++ if (index.decide doc).isDuplicate then [] else [doc.id] := by
  obtain ⟨dup, eq⟩ | ⟨dup, eq⟩ := index.submit_cases doc
  · simp [eq, dup]
  · simp [eq, dup, ids, store]

/-- The names after a row of submissions: those of the documents that are no
duplicates are added in order. -/
theorem submitAll_stored (docs : List EmbeddedDocument) : (index.submitAll docs).1.ids
    = index.ids ++ ((index.submitAll docs).2.filter (!·.isDuplicate)).map (·.id) := by
  induction docs generalizing index with
  | nil => simp
  | cons doc docs ih =>
    rw [submitAll_cons, submit_decision, ih, submit_ids, List.append_assoc]
    congr 1
    by_cases dup : (index.decide doc).isDuplicate
    · simp [dup]
    · simp [dup]

/-- Every decision finds a duplicate or stores its document. -/
theorem submitAll_size (docs : List EmbeddedDocument) :
    (index.submitAll docs).2.countP (·.isDuplicate) + (index.submitAll docs).1.size
      = docs.length + index.size := by
  have stored := congrArg List.length (index.submitAll_stored docs)
  rw [List.length_append, List.length_map, length_ids, length_ids,
    ← List.countP_eq_length_filter] at stored
  have all := index.submitAll_length docs
  rw [List.length_eq_countP_add_countP (·.isDuplicate)] at all
  simp only [Bool.not_eq_true, Bool.decide_eq_false] at all
  omega

theorem ids_subset (docs : List EmbeddedDocument) : index.ids ⊆ (index.submitAll docs).1.ids := by
  rw [submitAll_stored]
  exact List.subset_append_left _ _

/-- A duplicate names a stored document, and not itself if the names are distinct. -/
theorem nearest_of_duplicate (positive : (0.0 : Float32) < index.threshold)
    (docs : List EmbeddedDocument) : ∀ decision ∈ (index.submitAll docs).2,
      decision.isDuplicate = true → decision.nearestId ∈ (index.submitAll docs).1.ids ∧
        ((index.ids ++ docs.map (·.id)).Nodup → decision.nearestId ≠ decision.id) := by
  induction docs generalizing index with
  | nil => simp
  | cons doc docs ih =>
    intro decision mem dup
    rw [submitAll_cons, submit_decision] at mem
    rcases List.mem_cons.mp mem with rfl | mem
    · -- The nearest entry of this document was stored before it.
      obtain ⟨entry, stored, name, -⟩ :=
        index.exists_entry_of_reached positive (of_decide_eq_true dup)
      have there := index.id_mem_of_mem_entries stored
      change (index.nearest doc.embedding).id ∈ _ ∧ (_ → (index.nearest doc.embedding).id ≠ doc.id)
      rw [name]
      refine ⟨index.ids_subset (doc :: docs) there, fun distinct same => ?_⟩
      exact List.disjoint_of_nodup_append distinct there (by simp [same])
    · have later := ih (index.submit doc).1 (by rwa [submit_threshold]) decision mem dup
      refine ⟨later.1, fun distinct => later.2 ?_⟩
      -- The names after this document are those before it, and at most its own.
      refine List.Nodup.sublist ?_ distinct
      rw [submit_ids, List.map_cons, List.append_assoc]
      refine (List.Sublist.refl _).append ?_
      split
      · exact List.sublist_cons_self _ _
      · exact List.Sublist.refl _

variable {index}

theorem stored_iff {docs : List EmbeddedDocument}
    (distinct : (index.ids ++ docs.map (·.id)).Nodup) : ∀ decision ∈ (index.submitAll docs).2,
      (decision.isDuplicate = false ↔ decision.id ∈ (index.submitAll docs).1.ids) := by
  intro decision mem
  have names := index.submitAll_ids docs
  have own : decision.id ∈ docs.map (·.id) := names ▸ List.mem_map_of_mem mem
  rw [submitAll_stored, List.mem_append]
  constructor
  · intro none
    exact .inr (List.mem_map_of_mem (List.mem_filter.mpr ⟨mem, by simp [none]⟩))
  · rintro (before | added)
    · exact absurd own (List.disjoint_of_nodup_append distinct before)
    · obtain ⟨other, added, same⟩ := List.mem_map.mp added
      obtain ⟨there, none⟩ := List.mem_filter.mp added
      have unique : ((index.submitAll docs).2.map (·.id)).Nodup := by
        rw [names]
        exact distinct.of_append_right
      obtain rfl := List.inj_on_of_nodup_map unique there mem same
      simpa using none

theorem ids_nodup {docs : List EmbeddedDocument}
    (distinct : (index.ids ++ docs.map (·.id)).Nodup) : (index.submitAll docs).1.ids.Nodup := by
  rw [← submitAll_ids] at distinct
  rw [submitAll_stored]
  exact List.Nodup.sublist ((List.Sublist.refl _).append (List.filter_sublist.map _)) distinct

end Index

end DocSieve
