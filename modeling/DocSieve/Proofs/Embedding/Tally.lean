import DocSieve.Proofs.Embedding.Counts
import DocSieve.Proofs.Numeric.Zeros

/-!
# The exact counts of terms

The count of a component is its number of terms with an even hash less its number of terms
with an odd one (`Embedder.tally`). Addition in single precision is not associative, but
as long as there are at most `2^24` terms every count on the way is an integer that is not
rounded, so the vector of counts is that of the exact ones (`Embedder.counts_eq`, by
induction over the terms, for all components at once). What the exact counts do not depend
on, the vector does not depend on either: the order of the terms, and pairs of terms that
cancel (`Embedder.counts_exact`).

Key definitions: `Embedder.share`, `Embedder.tally`.
Key theorems: `Embedder.counts_eq`, `Embedder.counts_exact`.
-/

namespace DocSieve

open Single

theorem bucket_eq (dimensions hash : UInt64) :
    bucket dimensions hash = hash.toNat % dimensions.toNat := UInt64.toNat_mod _ _

theorem Vector32.size_normalize (v : Vector32) : v.normalize.size = v.size := by
  unfold normalize
  dsimp only
  split
  · exact Array.size_map
  · rfl

namespace Embedder

variable (e : Embedder)

theorem dimensions_pos : 0 < e.dimensions.toNat :=
  Nat.pos_of_ne_zero fun zero => e.dimensions_ne_zero (UInt64.toNat_inj.mp zero)

theorem bucket_lt (hash : UInt64) : bucket e.dimensions hash < e.dimensions.toNat := by
  rw [bucket_eq]
  exact Nat.mod_lt _ e.dimensions_pos

/-- The terms that are counted in a component. -/
def share (terms : List String) (b : ℕ) : List String :=
  terms.filter fun term => (hashText term).toNat % e.dimensions.toNat = b

/-- The exact count of a component. -/
def tally (terms : List String) (b : ℕ) : ℤ :=
  ((e.share terms b).map fun term => direction (hashText term)).sum

/-! ### Exact counts -/

theorem tally_append (terms more : List String) (b : ℕ) :
    e.tally (terms ++ more) b = e.tally terms b + e.tally more b := by
  rw [tally, share, List.filter_append, List.map_append, List.sum_append]
  rfl

theorem tally_singleton (term : String) (b : ℕ) : e.tally [term] b
    = if bucket e.dimensions (hashText term) = b then direction (hashText term) else 0 := by
  rw [bucket_eq, tally, share, List.filter_cons]
  by_cases here : (hashText term).toNat % e.dimensions.toNat = b <;> simp [here]

theorem tally_cons (term : String) (terms : List String) (b : ℕ) :
    e.tally (term :: terms) b = e.tally [term] b + e.tally terms b := e.tally_append [term] terms b

theorem abs_tally_le (terms : List String) (b : ℕ) : |e.tally terms b| ≤ terms.length := by
  induction terms with
  | nil => rfl
  | cons term terms ih =>
    have one : |e.tally [term] b| ≤ 1 := by
      rw [tally_singleton]
      split
      · exact (abs_direction _).le
      · norm_num
    rw [tally_cons, List.length_cons, Nat.cast_add_one, add_comm]
    exact (abs_add_le _ _).trans (add_le_add ih one)

theorem abs_tally_le_of_few {terms : List String} (few : terms.length ≤ 2 ^ 24) (b : ℕ) :
    |e.tally terms b| ≤ 2 ^ 24 := (e.abs_tally_le terms b).trans (by exact_mod_cast few)

theorem real_tally {terms : List String} (few : terms.length ≤ 2 ^ 24) (b : ℕ) :
    (ofInt (e.tally terms b)).isFinite = true ∧ real (ofInt (e.tally terms b)) = e.tally terms b :=
  real_ofInt (e.abs_tally_le_of_few few b)

theorem tally_perm {terms others : List String} (h : terms.Perm others) (b : ℕ) :
    e.tally terms b = e.tally others b :=
  ((h.filter _).map _).sum_eq

theorem tally_opposite {plus minus : String}
    (same : bucket e.dimensions (hashText plus) = bucket e.dimensions (hashText minus))
    (even : Even (hashText plus).toNat) (odd : Odd (hashText minus).toNat) (terms : List String)
    (b : ℕ) : e.tally (plus :: minus :: terms) b = e.tally terms b := by
  rw [e.tally_cons plus, e.tally_cons minus terms, tally_singleton, tally_singleton, same,
    direction, direction, if_pos even, if_neg (Nat.not_even_iff_odd.mpr odd)]
  split <;> ring

/-! ### The vector of counts -/

theorem counts_concat (terms : List String) (term : String) :
    e.counts (terms ++ [term]) = e.count (e.counts terms) term := by
  rw [counts, counts, List.foldl_append]
  rfl

/-- **The vector of at most `2^24` terms is that of the exact counts.** -/
theorem counts_eq (terms : List String) (few : terms.length ≤ 2 ^ 24) :
    e.counts terms = Array.ofFn fun b : Fin e.dimensions.toNat => ofInt (e.tally terms b) := by
  -- From the right: the last term is added to the counts of those before it, and as each
  -- count is at most the number of terms, none of the sums on the way is rounded.
  induction terms using List.reverseRecOn with
  | nil =>
    refine Array.ext (by simp [counts, Vector32.zeros]) fun b _ _ => ?_
    simp only [counts, Vector32.zeros, List.foldl_nil, Array.getElem_replicate, Array.getElem_ofFn]
    rfl
  | append_singleton terms term ih =>
    have few' : terms.length ≤ 2 ^ 24 := by
      rw [List.length_append, List.length_singleton] at few
      omega
    rw [counts_concat, ih few']
    refine Array.ext (by simp [count]) fun b bound bound' => ?_
    have before := e.abs_tally_le_of_few few' b
    have after := e.abs_tally_le_of_few few b
    rw [e.getElem_count bound (by simpa using bound'), Array.getElem_ofFn, Array.getElem_ofFn]
    dsimp only
    rw [tally_append, tally_singleton] at after ⊢
    split_ifs at after ⊢
    · rw [sign_eq_ofInt]
      exact ofInt_add_one (abs_direction _) before after
    · rw [add_zero]

theorem getElem_counts {terms : List String} (few : terms.length ≤ 2 ^ 24) {b : ℕ}
    (bound : b < (e.counts terms).size) : (e.counts terms)[b] = ofInt (e.tally terms b) := by
  simp only [e.counts_eq terms few, Array.getElem_ofFn]

theorem embed_congr {terms others : List String} (few : terms.length ≤ 2 ^ 24)
    (few' : others.length ≤ 2 ^ 24) (same : ∀ b, e.tally terms b = e.tally others b) :
    e.embed terms = e.embed others := by
  have counts : e.counts terms = e.counts others := by
    simp only [e.counts_eq _ few, e.counts_eq _ few', same]
  rw [embed, embed, counts]

/-- Counts that are all zero are not divided, so their bits are zero. -/
theorem toBits_of_vanishing {terms : List String} (few : terms.length ≤ 2 ^ 24)
    (vanish : ∀ b < e.dimensions.toNat, e.tally terms b = 0) :
    ∀ x ∈ (e.counts terms).normalize, x.toBits = 0 := by
  have counts : e.counts terms = Vector32.zeros e.dimensions.toNat := by
    rw [e.counts_eq terms few]
    refine Array.ext (by simp [Vector32.zeros]) fun b bound _ => ?_
    have none := vanish b (by simpa using bound)
    simp only [Array.getElem_ofFn, none, ofInt_zero, Vector32.zeros, Array.getElem_replicate]
  intro x mem
  rw [counts, Vector32.normalize_of_allZero (Vector32.allZero_zeros _)] at mem
  obtain rfl := Array.eq_of_mem_replicate mem
  rfl

/-- **The counts are exact.** For at most `2^24` terms: every hash has a component; every
component of the counts is the exact count, the zero with bits of zero where that is zero;
the vector has a component for each dimension if it fits into an allocation, which is all
that it can fail for, and only bits of zero if all counts are zero. Neither another order
of the terms changes it, nor two more terms of one component and opposite signs. -/
theorem counts_exact (e : Embedder) (terms : List String) (few : terms.length ≤ 2 ^ 24) :
    (∀ term : String, bucket e.dimensions (hashText term) < (e.counts terms).size) ∧
    (e.counts terms).size = e.dimensions.toNat ∧
    (∀ b (bound : b < (e.counts terms).size),
      let x := (e.counts terms)[b]
      x.isFinite = true ∧ real x = e.tally terms b ∧ (e.tally terms b = 0 → x.toBits = 0)) ∧
    (e.dimensions.toNat * 4 ≤ maxAllocation → ∃ v, e.embed terms = .ok v ∧
      v.size = e.dimensions.toNat ∧
      ((∀ b < e.dimensions.toNat, e.tally terms b = 0) → ∀ x ∈ v, x.toBits = 0)) ∧
    (maxAllocation < e.dimensions.toNat * 4 → e.embed terms = .error .oversize) ∧
    (∀ reordered : List String, reordered.Perm terms → e.embed reordered = e.embed terms) ∧
    ∀ plus minus : String,
      bucket e.dimensions (hashText plus) = bucket e.dimensions (hashText minus) →
      Even (hashText plus).toNat → Odd (hashText minus).toNat →
      ∀ more : List String, more.Perm (plus :: minus :: terms) → more.length ≤ 2 ^ 24 →
        e.embed more = e.embed terms := by
  have size : (e.counts terms).size = e.dimensions.toNat := by
    rw [e.counts_eq terms few, Array.size_ofFn]
  have fits_iff : e.fits = true ↔ e.dimensions.toNat * 4 ≤ maxAllocation := decide_eq_true_iff
  refine ⟨fun term => size ▸ e.bucket_lt _, size, fun b bound => ?_, fun room => ?_, fun none => ?_,
    fun reordered perm => ?_, fun plus minus same even odd more perm few' => ?_⟩
  · obtain ⟨finite, value⟩ := e.real_tally few b
    rw [e.getElem_counts few]
    refine ⟨finite, value, fun zero => ?_⟩
    rw [zero]
    rfl
  · refine ⟨_, if_pos (fits_iff.mpr room), ?_, e.toBits_of_vanishing few⟩
    rw [Vector32.size_normalize, size]
  · exact if_neg fun fits => none.not_ge (fits_iff.mp fits)
  · exact e.embed_congr (perm.length_eq.trans_le few) few fun b => e.tally_perm perm b
  · refine e.embed_congr few' few fun b => ?_
    rw [e.tally_perm perm, e.tally_opposite same even odd]

theorem three_ne_zero : (3 : UInt64) ≠ 0 := by decide

/-- The embedder with three components. -/
def threefold : Embedder := ⟨3, three_ne_zero⟩

/-- The letters `a` and `b` cancel in the second of three components: alone they give zeros,
and other letters give the same vector with them as without. -/
theorem counts_exact_threefold :
    ["a", "b"].length ≤ 2 ^ 24 ∧ ["c", "x", "e"].length ≤ 2 ^ 24 ∧
      (∀ b < threefold.dimensions.toNat, threefold.tally ["a", "b"] b = 0) ∧
      bucket threefold.dimensions (hashText "a") = bucket threefold.dimensions (hashText "b") ∧
      Even (hashText "a").toNat ∧ Odd (hashText "b").toNat ∧
      (∃ v, threefold.embed ["a", "b"] = .ok v ∧ v.size = 3 ∧ ∀ x ∈ v, x.toBits = 0) ∧
      threefold.embed ["x", "e", "c"] = threefold.embed ["c", "x", "e"] ∧
      threefold.embed ["b", "c", "a", "x", "e"] = threefold.embed ["c", "x", "e"] := by
  have vanish : ∀ b < threefold.dimensions.toNat, threefold.tally ["a", "b"] b = 0 := by
    decide +kernel
  have same : bucket threefold.dimensions (hashText "a")
      = bucket threefold.dimensions (hashText "b") := by decide +kernel
  have even : Even (hashText "a").toNat := by decide +kernel
  have odd : Odd (hashText "b").toNat := by decide +kernel
  obtain ⟨-, -, -, made, -⟩ := counts_exact threefold ["a", "b"] (by decide)
  obtain ⟨v, embedded, size, zeros⟩ := made (by decide)
  obtain ⟨-, -, -, -, -, reordered, added⟩ := counts_exact threefold ["c", "x", "e"] (by decide)
  exact ⟨by decide, by decide, vanish, same, even, odd, ⟨v, embedded, size, zeros vanish⟩,
    reordered _ (by decide), added "a" "b" same even odd _ (by decide) (by decide)⟩

theorem vast_ne_zero : (0x2000000000000000 : UInt64) ≠ 0 := by decide

/-- The embedder with the fewest components that are too many for an allocation. -/
def vast : Embedder := ⟨0x2000000000000000, vast_ne_zero⟩

/-- **A vector can be too long to be made.** With `2^61` components there is no vector, of
that length or another. -/
theorem vast_refused :
    ["x"].length ≤ 2 ^ 24 ∧ vast.embed ["x"] = .error .oversize ∧
      ¬ ∃ v, vast.embed ["x"] = .ok v ∧ v.size = vast.dimensions.toNat := by
  have refused : vast.embed ["x"] = .error .oversize := if_neg (by decide)
  refine ⟨by decide, refused, ?_⟩
  rintro ⟨v, made, -⟩
  rw [refused] at made
  cases made

end Embedder

end DocSieve
