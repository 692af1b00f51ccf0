import DocSieve.Proofs.Index.Submission

/-!
# The decision is exact

The search for the nearest entry keeps a running best, which starts at zero. What it
ends with is the greatest number among zero and the scores (`zero_le_nearest`,
`le_nearest`), and if that is above zero it comes with the name of the first entry that
has it (`nearest_first`). Scores that are NaN count for nothing, and neither negative
ones nor a negative zero replace the zero that the search starts with. So a decision says
exactly what the stored entries say (`decision_exact`), whatever the vectors hold.

Key theorems: `Index.zero_le_nearest`, `Index.le_nearest`, `Index.nearest_first`,
`Index.decision_exact`.
-/

namespace DocSieve

namespace Index

variable (index : Index) (query : Vector32)

/-- The nearest score is not below zero, so it is a number. -/
theorem zero_le_nearest : (index.nearest query).score ≥ 0.0 := by
  rcases index.nearest_cases query with ⟨none, -⟩ | ⟨earlier, entry, later, -, same, above, -⟩
  · rw [none]
    exact (Single.le_iff _ _).mpr ⟨rfl, rfl, le_rfl⟩
  · rw [same]
    exact Single.le_of_lt above

theorem le_nearest {entry : Entry} (stored : entry ∈ index.entries)
    (number : (query.dot entry.vector).isNaN = false) :
    query.dot entry.vector ≤ (index.nearest query).score := by
  have mem := Array.mem_toList_iff.mpr stored
  rcases index.nearest_cases query with
    ⟨same, none⟩ | ⟨earlier, best, later, entries, same, above, before, after⟩
  · rw [same]
    exact Single.le_of_not_lt number rfl (none entry mem)
  obtain ⟨-, best_number, -⟩ := (Single.lt_iff _ _).mp above
  rw [same]
  rw [entries] at mem
  rcases List.mem_append.mp mem with mem | mem
  · exact Single.le_of_lt (Single.lt_of_not_le number best_number (before entry mem))
  rcases List.mem_cons.mp mem with rfl | mem
  · exact (Single.le_iff _ _).mpr ⟨number, number, le_rfl⟩
  · exact Single.le_of_not_lt number best_number (after entry mem)

/-- A nearest score above zero is that of the first entry that reaches it, and comes with
its name. -/
theorem nearest_first (above : (index.nearest query).score > 0.0) :
    ∃ i, ∃ bound : i < index.entries.size,
      index.nearest query = ⟨index.entries[i].id, query.dot index.entries[i].vector⟩ ∧
      ∀ j, (less : j < i) →
        ¬ query.dot index.entries[j].vector ≥ (index.nearest query).score := by
  rcases index.nearest_cases query with
    ⟨none, -⟩ | ⟨earlier, entry, later, entries, same, -, before, -⟩
  · rw [none] at above
    exact absurd above (Single.not_lt_self _)
  have size := congrArg List.length entries
  rw [Array.length_toList, List.length_append, List.length_cons] at size
  have here : index.entries[earlier.length] = entry := by
    rw [← Array.getElem_toList]
    simp [entries]
  refine ⟨earlier.length, by omega, by rw [here, same], fun j less => ?_⟩
  have there : index.entries[j] = earlier[j] := by
    rw [← Array.getElem_toList]
    simp [entries, less]
  rw [there, same]
  exact before _ (List.getElem_mem less)

theorem nearest_of_not_above (below : ¬ (index.nearest query).score > 0.0) :
    index.nearest query = ⟨"", 0.0⟩ := by
  rcases index.nearest_cases query with ⟨none, -⟩ | ⟨_, _, _, -, same, above, -⟩
  · exact none
  · rw [same] at below
    exact absurd above below

/-- **The decision is exact.** From an empty index with a threshold that it accepts, after
any submissions: a document is a duplicate if and only if some stored entry has a
similarity to it that reaches the threshold. The similarity of the decision is the
greatest of zero and all similarities that are numbers; if it is above zero, the decision
names the first entry that has it, and otherwise it is zero and names none. What is no
duplicate is stored as the last entry, and a duplicate leaves the entries as they are. -/
theorem decision_exact {threshold : Float32} {capacity : UInt64} {index : Index}
    (made : create? threshold capacity = .ok index) (earlier : List EmbeddedDocument)
    (doc : EmbeddedDocument) :
    let before := (index.submitAll earlier).1
    let after := (before.submit doc).1
    let decision := (before.submit doc).2
    let score (entry : Entry) := doc.embedding.dot entry.vector
    decision.id = doc.id ∧
    (decision.isDuplicate = true ↔ ∃ entry ∈ before.entries, score entry ≥ threshold) ∧
    decision.similarity ≥ 0.0 ∧
    (∀ entry ∈ before.entries, (score entry).isNaN = false →
      score entry ≤ decision.similarity) ∧
    (decision.similarity > 0.0 → ∃ i, ∃ bound : i < before.entries.size,
      score before.entries[i] = decision.similarity ∧
      decision.nearestId = before.entries[i].id ∧
      ∀ j, (less : j < i) → ¬ score before.entries[j] ≥ decision.similarity) ∧
    (¬ decision.similarity > 0.0 → decision.similarity = 0.0 ∧ decision.nearestId = "") ∧
    (decision.isDuplicate = false →
      after.entries = before.entries.push ⟨doc.id, doc.embedding⟩) ∧
    (decision.isDuplicate = true → after.entries = before.entries) := by
  intro before after decision score
  obtain ⟨accepted, rfl⟩ := eq_of_create? made
  have threshold_eq : before.threshold = threshold := submitAll_threshold _ earlier
  have aligned : before.Aligned := (aligned_empty threshold).submitAll earlier
  have decided : decision = before.decide doc := before.submit_decision doc
  have positive : (0.0 : Float32) < before.threshold := threshold_eq ▸ positive_of_accepts accepted
  have duplicate := before.isDuplicate_iff positive doc
  rw [threshold_eq] at duplicate
  rw [decided]
  refine ⟨rfl, duplicate, before.zero_le_nearest _, fun _ => before.le_nearest _,
    fun above => ?_, fun below => ?_, fun new => ?_,
    fun dup => congrArg Index.entries (submit_of_duplicate dup)⟩
  · obtain ⟨i, bound, first, earliest⟩ := before.nearest_first doc.embedding above
    exact ⟨i, bound, (congrArg Hit.score first).symm, congrArg Hit.id first, earliest⟩
  · have no_entry := before.nearest_of_not_above doc.embedding below
    exact ⟨congrArg Hit.score no_entry, congrArg Hit.id no_entry⟩
  · rw [← aligned.entries_store doc, ← submit_of_new new]

/-- Four entries, with the similarities 0.5, NaN, 0.5 and -1 to the document: the first one
is nearest, though it is too far for a duplicate. -/
theorem decision_exact_tie :
    let before := ((empty 0.9).submitAll [⟨"a", #[0.5, 0.0]⟩, ⟨"b", #[0.0 / 0.0]⟩,
      ⟨"c", #[0.5, 0.5]⟩, ⟨"d", #[-1.0]⟩]).1
    let doc : EmbeddedDocument := ⟨"e", #[1.0, 0.0]⟩
    create? 0.9 4 = .ok (.empty 0.9) ∧ before.ids = ["a", "b", "c", "d"] ∧
      (before.decide doc).isDuplicate = false ∧ (before.decide doc).similarity > 0.0 ∧
      (before.decide doc).nearestId = "a" ∧
      (∃ i, ∃ bound : i < before.entries.size,
        doc.embedding.dot before.entries[i].vector = (before.decide doc).similarity ∧
        "a" = before.entries[i].id ∧
        ∀ j, (less : j < i) →
          ¬ doc.embedding.dot before.entries[j].vector ≥ (before.decide doc).similarity) ∧
      (before.submit doc).1.entries = before.entries.push ⟨"e", #[1.0, 0.0]⟩ := by
  intro before doc
  have made : create? 0.9 4 = .ok (.empty 0.9) := by rfl
  have none : (before.decide doc).isDuplicate = false := by decide +kernel
  have above : (before.decide doc).similarity > 0.0 := by decide +kernel
  have first : (before.decide doc).nearestId = "a" := by decide +kernel
  obtain ⟨-, -, -, -, named, -, stored, -⟩ := decision_exact made
    [⟨"a", #[0.5, 0.0]⟩, ⟨"b", #[0.0 / 0.0]⟩, ⟨"c", #[0.5, 0.5]⟩, ⟨"d", #[-1.0]⟩] doc
  rw [submit_decision] at named stored
  have nearest := named above
  rw [first] at nearest
  exact ⟨made, by decide +kernel, none, above, first, nearest, stored none⟩

end Index

end DocSieve
