import DocSieve.Proofs.Index.Submission
import DocSieve.Proofs.Ranking.Insertion
import DocSieve.Proofs.Ranking.Members

/-!
# The two lookups

The nearest entry is found by going over the scores once, the hits of a search by
ranking them. Both prefer the greatest score and of equal ones the earliest, so where
all scores are numbers the first hit is the nearest entry (`lookups_agree`).

They part on NaN. To the one who goes over the scores NaN is nothing; to a ranking it
is as good as any score, and no later item goes past it. Up to the length that is
ranked by insertion it is just the entries before the nearest one that matter: the
first hit is the nearest entry if and only if none of them scores NaN. So a search can
give an entry that is less similar than another (`search_misses_nearest`).

Key theorems: `Index.search?_eq_inserted`, `Index.head?_inserted_eq_nearest_iff`,
`Index.lookups_agree`.
-/

namespace DocSieve

namespace Index

/-- One score is greater than another. -/
def isBetter (a b : Hit) : Bool := a.score > b.score

variable (index : Index) (query : Vector32)

theorem mem_scores_of_search? {k : Nat} {hits : List Hit}
    (found : index.search? query k = some hits) :
    ∀ hit ∈ hits, hit ∈ (index.scores query).toList := by
  unfold search? at found
  obtain ⟨ranked, hranked, rfl⟩ := Option.map_eq_some_iff.mp found
  intro hit mem
  have mem := List.mem_of_mem_take mem
  split at hranked
  · exact Ranking.mem_of_rank? hranked hit mem
  · cases hranked
    simpa using (Ranking.inserted_perm _ _ _).subset mem

theorem search?_eq_inserted (k : Nat)
    (plain : (∀ entry ∈ index.entries.toList, (query.dot entry.vector).isNaN = false) ∨
      index.entries.size ≤ Ranking.insertionLength) :
    index.search? query k =
      some ((Ranking.inserted isBetter [] (index.scores query).toList).take k) := by
  have size : (index.scores query).toList.length = index.entries.size := by
    rw [scores_toList, List.length_map, Array.length_toList]
  unfold search?
  dsimp only
  split
  · rename_i some_nan
    have short : index.entries.size ≤ Ranking.insertionLength := by
      refine plain.resolve_left fun numbers => ?_
      rw [scores_toList, List.any_map, List.any_eq_true] at some_nan
      obtain ⟨entry, mem, nan⟩ := some_nan
      rw [Function.comp_apply, numbers entry mem] at nan
      cases nan
    unfold Ranking.rank?
    rw [if_pos (size ▸ short)]
    rfl
  · rfl

/-- Of the scores ranked by insertion the nearest entry's stands first if and only if
none before it is NaN. -/
theorem head?_inserted_eq_nearest_iff {earlier later : List Entry} {entry : Entry}
    (entries : index.entries.toList = earlier ++ entry :: later)
    (before : ∀ other ∈ earlier, ¬ query.dot other.vector ≥ query.dot entry.vector)
    (after : ∀ other ∈ later, ¬ query.dot other.vector > query.dot entry.vector)
    (above : query.dot entry.vector > 0.0) :
    (Ranking.inserted isBetter [] (index.scores query).toList).head? =
        some ⟨entry.id, query.dot entry.vector⟩ ↔
      ∀ other ∈ earlier, (query.dot other.vector).isNaN = false := by
  obtain ⟨-, number, -⟩ := (Single.lt_iff _ _).mp above
  have new : (⟨entry.id, query.dot entry.vector⟩ : Hit) ∉
      earlier.map fun other => ⟨other.id, query.dot other.vector⟩ := by
    intro mem
    obtain ⟨other, stored, same⟩ := List.mem_map.mp mem
    have score : query.dot other.vector = query.dot entry.vector := congrArg Hit.score same
    refine before other stored ?_
    rw [score]
    exact (Single.le_iff _ _).mpr ⟨number, number, le_rfl⟩
  rw [scores_toList, entries, List.map_append, List.map_cons,
    Ranking.head?_inserted_iff _ new ?_, List.forall_mem_map]
  · refine forall₂_congr fun other mem => ?_
    constructor
    · intro better
      exact ((Single.lt_iff _ _).mp (of_decide_eq_true better)).1
    · intro isNumber
      exact decide_eq_true (Single.lt_of_not_le isNumber number (before other mem))
  · rw [List.forall_mem_map]
    exact fun other mem => decide_eq_false (after other mem)

/-- Whatever is ranked by insertion has a first hit. It is the nearest entry's if and
only if no score before that one is NaN. -/
theorem exists_search?_cons (k : Nat) {earlier later : List Entry} {entry : Entry}
    (entries : index.entries.toList = earlier ++ entry :: later)
    (before : ∀ other ∈ earlier, ¬ query.dot other.vector ≥ query.dot entry.vector)
    (after : ∀ other ∈ later, ¬ query.dot other.vector > query.dot entry.vector)
    (above : query.dot entry.vector > 0.0)
    (plain : (∀ other ∈ index.entries.toList, (query.dot other.vector).isNaN = false) ∨
      index.entries.size ≤ Ranking.insertionLength) :
    ∃ first rest, index.search? query (k + 1) = some (first :: rest) ∧
      (first = ⟨entry.id, query.dot entry.vector⟩ ↔
        ∀ other ∈ earlier, (query.dot other.vector).isNaN = false) := by
  have first_iff := index.head?_inserted_eq_nearest_iff query entries before after above
  have found := index.search?_eq_inserted query (k + 1) plain
  have perm := Ranking.inserted_perm isBetter [] (index.scores query).toList
  cases hits : Ranking.inserted isBetter [] (index.scores query).toList with
  | nil =>
    rw [hits, List.nil_append, scores_toList, entries] at perm
    have empty := perm.length_eq
    simp at empty
  | cons first rest =>
    rw [hits, List.head?_cons, Option.some_inj] at first_iff
    rw [hits, List.take_succ_cons] at found
    exact ⟨first, _, found, first_iff⟩

/-- **The two lookups agree on numbers.** A search of up to twenty entries has hits, and
one of more entries if all similarities are numbers. If no similarity is above zero,
there is no nearest entry, and no hit of a search is above zero. Otherwise the nearest
entry is the first with the greatest similarity, and it is the first hit of a search, as
long as all similarities are numbers. Of up to twenty entries it is the first hit if and
only if the similarities before it are numbers. -/
theorem lookups_agree (k : Nat) :
    ((∀ entry ∈ index.entries.toList, (query.dot entry.vector).isNaN = false) ∨
      index.entries.size ≤ 20 → ∃ hits, index.search? query (k + 1) = some hits) ∧
    ((∀ entry ∈ index.entries.toList, ¬ query.dot entry.vector > 0.0) →
      index.nearest query = ⟨"", 0.0⟩ ∧
        ∀ hits, index.search? query (k + 1) = some hits → ∀ hit ∈ hits, ¬ hit.score > 0.0) ∧
    ((∃ entry ∈ index.entries.toList, query.dot entry.vector > 0.0) →
      ∃ earlier entry later, index.entries.toList = earlier ++ entry :: later ∧
        index.nearest query = ⟨entry.id, query.dot entry.vector⟩ ∧
        (∀ other ∈ earlier, ¬ query.dot other.vector ≥ query.dot entry.vector) ∧
        (∀ other ∈ later, ¬ query.dot other.vector > query.dot entry.vector) ∧
        ((∀ other ∈ index.entries.toList, (query.dot other.vector).isNaN = false) →
          ∃ rest, index.search? query (k + 1) = some (index.nearest query :: rest)) ∧
        (index.entries.size ≤ 20 → ∃ first rest,
          index.search? query (k + 1) = some (first :: rest) ∧
            (first = index.nearest query ↔
              ∀ other ∈ earlier, (query.dot other.vector).isNaN = false))) := by
  refine ⟨fun plain => ⟨_, index.search?_eq_inserted query (k + 1) plain⟩, ?_, ?_⟩
  · intro none
    constructor
    · rcases index.nearest_cases query with ⟨same, -⟩ |
        ⟨earlier, entry, later, entries, -, above, -⟩
      · exact same
      · exact absurd above (none entry (by simp [entries]))
    · intro hits found hit mem
      have score := index.mem_scores_of_search? query found hit mem
      rw [scores_toList] at score
      obtain ⟨entry, stored, rfl⟩ := List.mem_map.mp score
      exact none entry stored
  · rintro ⟨some_entry, stored, positive⟩
    rcases index.nearest_cases query with
      ⟨-, none⟩ | ⟨earlier, entry, later, entries, same, above, before, after⟩
    · exact absurd positive (none some_entry stored)
    have ranked := index.exists_search?_cons query k entries before after above
    rw [← same] at ranked
    refine ⟨earlier, entry, later, entries, same, before, after, fun numbers => ?_,
      fun few => ranked (.inr few)⟩
    obtain ⟨first, rest, found, iff⟩ := ranked (.inl numbers)
    rw [iff.mpr fun other mem => numbers other (entries ▸ List.mem_append_left _ mem)] at found
    exact ⟨rest, found⟩

theorem lookups_agree_two :
    let index := ((empty 0.5).submitAll [⟨"a", #[1.0, 0.0]⟩, ⟨"b", #[0.0, 1.0]⟩]).1
    let query : Vector32 := #[1.0, 2.0]
    create? 0.5 4 = .ok (.empty 0.5) ∧ index.ids = ["a", "b"] ∧
      (∃ entry ∈ index.entries.toList, query.dot entry.vector > 0.0) ∧
      (index.nearest query).id = "b" ∧
      ∃ rest, index.search? query 1 = some (index.nearest query :: rest) := by
  intro index query
  have some_entry : ∃ entry ∈ index.entries.toList, query.dot entry.vector > 0.0 := by
    decide +kernel
  obtain ⟨-, -, positive⟩ := lookups_agree index query 0
  obtain ⟨_, _, _, -, -, -, -, agree, -⟩ := positive some_entry
  exact ⟨by rfl, by decide +kernel, some_entry, by decide +kernel, agree (by decide +kernel)⟩

/-- **A search can miss the nearest entry.** Between two entries one with NaN is stored.
The last one is nearest to the query, at two; but the first hit of a search is the first
one, at one. -/
theorem search_misses_nearest :
    let index := ((empty 0.5).submitAll
      [⟨"a", #[1.0, 0.0]⟩, ⟨"b", #[0.0 / 0.0, 0.0]⟩, ⟨"c", #[0.0, 1.0]⟩]).1
    let query : Vector32 := #[1.0, 2.0]
    create? 0.5 4 = .ok (.empty 0.5) ∧ index.ids = ["a", "b", "c"] ∧
      (∃ entry ∈ index.entries.toList, query.dot entry.vector > 0.0) ∧
      (index.nearest query).id = "c" ∧ (index.nearest query).score == 2.0 ∧
      (index.search? query 1).map (·.map (·.id)) = some ["a"] ∧
      (index.search? query 1).map (·.map (·.score == 1.0)) = some [true] :=
  ⟨by rfl, by decide +kernel, by decide +kernel, by decide +kernel, by decide +kernel,
    by decide +kernel, by decide +kernel⟩

end Index

end DocSieve
