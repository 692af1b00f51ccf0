import DocSieve.Embedding.Basic
import DocSieve.Proofs.Numeric.Integers

/-!
# The signed counts of terms

Every component of the counts is a whole number, however many terms there are: up to
`2^24` a step by one is exact, above it the places are two or four apart, and
`2^25` is not crossed, since from there a step by one is rounded away
(`IsCount.add_sign`).

Key definitions: `IsCount`, `direction`.
Key theorems: `IsCount.add_sign`, `Embedder.counts_invariant`, `isCount_of_mem_counts`.
-/

namespace DocSieve

open Single

/-- A finite whole number of at most `2^25`. -/
def IsCount (x : Float32) : Prop :=
  x.isFinite = true ∧ ∃ z : ℤ, real x = z ∧ |z| ≤ 2 ^ 25

/-- What a hash adds to the exact count of its component. -/
def direction (hash : UInt64) : ℤ := if Even hash.toNat then 1 else -1

theorem abs_direction (hash : UInt64) : |direction hash| = 1 := by
  unfold direction
  split <;> rfl

theorem sign_eq_ofInt (hash : UInt64) : sign hash = ofInt (direction hash) := by
  have low : hash &&& 1 = 0 ↔ Even hash.toNat := by
    rw [← UInt64.toNat_inj, UInt64.toNat_and, UInt64.toNat_one, UInt64.toNat_zero,
      Nat.and_one_is_mod, Nat.even_iff]
  unfold sign direction
  by_cases even : Even hash.toNat
  · rw [if_pos (low.mpr even), if_pos even, ofInt_one]
  · rw [if_neg (mt low.mp even), if_neg even, ofInt_neg_one]

theorem real_sign (hash : UInt64) :
    (sign hash).isFinite = true ∧ real (sign hash) = direction hash := by
  rw [sign_eq_ofInt]
  exact real_ofInt ((abs_direction hash).trans_le (by norm_num))

/-- **One more term keeps a count whole and within its bound.** -/
theorem IsCount.add_sign {x : Float32} (h : IsCount x) (hash : UInt64) :
    IsCount (x + sign hash) := by
  obtain ⟨finite, z, value, bound⟩ := h
  obtain ⟨finite', step⟩ := real_sign hash
  have sum : real x + real (sign hash) = (z + direction hash : ℤ) := by
    rw [value, step, Int.cast_add]
  have near : |z + direction hash| ≤ 2 ^ 25 + 1 :=
    (abs_add_le _ _).trans (add_le_add bound (abs_direction hash).le)
  have near : |((z + direction hash : ℤ) : ℝ)| ≤ 2 ^ 25 + 1 := by exact_mod_cast near
  obtain ⟨finite, rounds⟩ := add_rounds finite finite'
    (by rw [sum]; exact near.trans_lt (by norm_num))
  rw [sum] at rounds
  obtain ⟨w, hw⟩ := rounds.whole
  have within := rounds.le_pow (K := 25) (by norm_num) (near.trans_lt (by norm_num))
  rw [hw] at within
  exact ⟨finite, w, hw, by exact_mod_cast within⟩

theorem isCount_zero : IsCount 0.0 := ⟨rfl, 0, by rw [real_zero]; norm_num, by norm_num⟩

theorem eq_of_embed {embedder : Embedder} {terms : List String} {v : Vector32}
    (h : embedder.embed terms = .ok v) : v = (embedder.counts terms).normalize := by
  unfold Embedder.embed at h
  split at h
  · exact (Except.ok.inj h).symm
  · cases h

theorem Embedder.getElem_count (e : Embedder) {v : Vector32} {term : String} {b : ℕ}
    (bound : b < (e.count v term).size) (before : b < v.size) : (e.count v term)[b]
      = if bucket e.dimensions (hashText term) = b then v[b] + sign (hashText term) else v[b] :=
  Array.getElem_modify bound

/-- What holds of zero and is kept by a step by one holds of every component. -/
theorem Embedder.counts_invariant (e : Embedder) {P : Float32 → Prop} (zero : P 0.0)
    (step : ∀ x hash, P x → P (x + sign hash)) (terms : List String) :
    ∀ x ∈ e.counts terms, P x := by
  have kept : ∀ (v : Vector32) (term : String), (∀ x ∈ v, P x) → ∀ x ∈ e.count v term, P x := by
    intro v term h x mem
    obtain ⟨i, bound, rfl⟩ := Array.mem_iff_getElem.mp mem
    have before : i < v.size := bound.trans_eq Array.size_modify
    rw [e.getElem_count bound before]
    split
    · exact step _ _ (h _ (Array.getElem_mem before))
    · exact h _ (Array.getElem_mem before)
  have start : ∀ x ∈ Vector32.zeros e.dimensions.toNat, P x := by
    intro x mem
    obtain rfl := Array.eq_of_mem_replicate mem
    exact zero
  unfold Embedder.counts
  generalize Vector32.zeros e.dimensions.toNat = v at start
  induction terms generalizing v with
  | nil => exact start
  | cons term terms ih => exact ih (e.count v term) (kept v term start)

theorem isCount_of_mem_counts (e : Embedder) (terms : List String) :
    ∀ x ∈ e.counts terms, IsCount x :=
  e.counts_invariant isCount_zero (fun _ hash h => h.add_sign hash) terms

end DocSieve
