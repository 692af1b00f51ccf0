import DocSieve.Index.Basic
import DocSieve.Proofs.Numeric.Order
import Mathlib.Data.List.Induction

/-!
# The nearest entry

The search for the nearest entry keeps the better of two hits, and a score that is
NaN is better than nothing. It starts at zero, which is a number, so NaN among the
scores hides nothing: there is no nearest entry if no score is above zero, and otherwise
it is the first one with the greatest score (`nearest_cases`). Hence the best score
reaches a threshold above zero if and only if some entry's score does (`reaches_iff`).

Key theorems: `Index.foldl_better_cases`, `Index.nearest_cases`, `Index.reaches_iff`.
-/

namespace DocSieve

namespace Index

/-- The better of all hits is the start, and none is better; or it is one of them, better
than the start, that no earlier hit reaches and no later one is better than. -/
theorem foldl_better_cases (start : Hit) (hits : List Hit) :
    (hits.foldl better start = start ∧ ∀ hit ∈ hits, ¬ hit.score > start.score) ∨
    ∃ earlier best later, hits = earlier ++ best :: later ∧ hits.foldl better start = best ∧
      best.score > start.score ∧ (∀ hit ∈ earlier, ¬ hit.score ≥ best.score) ∧
      ∀ hit ∈ later, ¬ hit.score > best.score := by
  induction hits using List.reverseRecOn with
  | nil => exact .inl ⟨rfl, fun _ mem => absurd mem List.not_mem_nil⟩
  | append_singleton hits hit ih =>
    rw [List.foldl_append, List.foldl_cons, List.foldl_nil]
    rcases ih with ⟨same, none⟩ | ⟨earlier, best, later, rfl, same, above, before, after⟩
    · rw [same]
      by_cases more : hit.score > start.score
      · refine .inr ⟨hits, hit, [], rfl, if_pos more, more, fun other mem reaches => ?_, by simp⟩
        exact none other mem (Single.lt_of_lt_of_le more reaches)
      · refine .inl ⟨if_neg more, fun other mem => ?_⟩
        rcases List.mem_append.mp mem with mem | mem
        · exact none other mem
        · rwa [List.mem_singleton.mp mem]
    · rw [same]
      refine .inr ?_
      by_cases more : hit.score > best.score
      · refine ⟨earlier ++ best :: later, hit, [], rfl, if_pos more,
          Single.lt_of_le_of_lt (Single.le_of_lt above) more, fun other mem reaches => ?_, by simp⟩
        have beats : other.score > best.score := Single.lt_of_lt_of_le more reaches
        rcases List.mem_append.mp mem with mem | mem
        · exact before other mem (Single.le_of_lt beats)
        rcases List.mem_cons.mp mem with rfl | mem
        · exact Single.not_lt_self _ beats
        · exact after other mem beats
      · refine ⟨earlier, best, later ++ [hit], by simp, if_neg more, above, before,
          fun other mem => ?_⟩
        rcases List.mem_append.mp mem with mem | mem
        · exact after other mem
        · rwa [List.mem_singleton.mp mem]

variable (index : Index) (query : Vector32)

theorem entries_toList :
    index.entries.toList = List.zipWith Entry.mk index.names.toList index.vectors.toList :=
  Array.toList_zipWith

theorem scores_toList : (index.scores query).toList =
    index.entries.toList.map fun entry => ⟨entry.id, query.dot entry.vector⟩ := by
  rw [entries_toList, List.map_zipWith]
  exact Array.toList_zipWith

/-- **The nearest entry is the first with the greatest similarity above zero.** -/
theorem nearest_cases :
    (index.nearest query = ⟨"", 0.0⟩ ∧
      ∀ entry ∈ index.entries.toList, ¬ query.dot entry.vector > 0.0) ∨
    ∃ earlier entry later, index.entries.toList = earlier ++ entry :: later ∧
      index.nearest query = ⟨entry.id, query.dot entry.vector⟩ ∧ query.dot entry.vector > 0.0 ∧
      (∀ other ∈ earlier, ¬ query.dot other.vector ≥ query.dot entry.vector) ∧
      ∀ other ∈ later, ¬ query.dot other.vector > query.dot entry.vector := by
  have fold : index.nearest query = (index.scores query).toList.foldl better ⟨"", 0.0⟩ :=
    (Array.foldl_toList ..).symm
  rw [fold]
  rcases foldl_better_cases ⟨"", 0.0⟩ (index.scores query).toList with
    ⟨same, none⟩ | ⟨earlier, best, later, split, same, above, before, after⟩
  · rw [scores_toList, List.forall_mem_map] at none
    exact .inl ⟨same, none⟩
  · right
    rw [scores_toList, List.map_eq_append_iff] at split
    obtain ⟨earlier, rest, entries, rfl, split⟩ := split
    obtain ⟨entry, later, rfl, rfl, rfl⟩ := List.map_eq_cons_iff.mp split
    rw [List.forall_mem_map] at before after
    exact ⟨earlier, entry, later, entries, same, above, before, after⟩

theorem positive_of_accepts {threshold : Float32} (h : acceptsThreshold threshold) :
    (0.0 : Float32) < threshold := by
  unfold acceptsThreshold at h
  simp only [Bool.and_eq_true, decide_eq_true_eq] at h
  exact h.1

theorem not_reached_by_zero {threshold : Float32} (positive : (0.0 : Float32) < threshold) :
    ¬ (0.0 : Float32) ≥ threshold := by
  intro reached
  obtain ⟨-, -, hlt⟩ := (Single.lt_iff _ _).mp positive
  obtain ⟨-, -, hle⟩ := (Single.le_iff _ _).mp reached
  exact absurd hle (not_le.mpr hlt)

theorem exists_entry_of_reached {query : Vector32} {threshold : Float32}
    (positive : (0.0 : Float32) < threshold) (reached : (index.nearest query).score ≥ threshold) :
    ∃ entry ∈ index.entries, (index.nearest query).id = entry.id ∧
      (index.nearest query).score = query.dot entry.vector := by
  rcases index.nearest_cases query with ⟨none, -⟩ | ⟨earlier, entry, later, entries, same, -⟩
  · rw [none] at reached
    exact absurd reached (not_reached_by_zero positive)
  · rw [same]
    exact ⟨entry, Array.mem_toList_iff.mp (by simp [entries]), rfl, rfl⟩

/-- **The nearest score reaches a threshold if and only if some score does.** -/
theorem reaches_iff (query : Vector32) {threshold : Float32}
    (positive : (0.0 : Float32) < threshold) :
    (index.nearest query).score ≥ threshold ↔
      ∃ entry ∈ index.entries, query.dot entry.vector ≥ threshold := by
  constructor
  · intro reached
    obtain ⟨entry, stored, -, score⟩ := index.exists_entry_of_reached positive reached
    exact ⟨entry, stored, score ▸ reached⟩
  · rintro ⟨entry, stored, reached⟩
    have above : query.dot entry.vector > 0.0 := Single.lt_of_lt_of_le positive reached
    have stored := Array.mem_toList_iff.mpr stored
    rcases index.nearest_cases query with
      ⟨-, none⟩ | ⟨earlier, best, later, entries, same, best_above, before, after⟩
    · exact absurd above (none entry stored)
    obtain ⟨-, number, -⟩ := (Single.lt_iff _ _).mp above
    obtain ⟨-, best_number, -⟩ := (Single.lt_iff _ _).mp best_above
    rw [same]
    rw [entries] at stored
    rcases List.mem_append.mp stored with mem | mem
    · exact Single.le_trans reached
        (Single.le_of_lt (Single.lt_of_not_le number best_number (before entry mem)))
    rcases List.mem_cons.mp mem with rfl | mem
    · exact reached
    · exact Single.le_trans reached (Single.le_of_not_lt number best_number (after entry mem))

end Index

end DocSieve
