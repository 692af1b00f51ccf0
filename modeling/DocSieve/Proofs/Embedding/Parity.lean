import DocSieve.Proofs.Embedding.Hash
import DocSieve.Proofs.Embedding.Length
import DocSieve.Proofs.Embedding.Tally

/-!
# Even numbers of components

The sign of a term is the low bit of its hash, and if the number of components is even, so
is the parity of its component. Hence all terms of a component have the same sign, and
nothing ever cancels: the count of a component is its number of terms, with a plus at even
places and a minus at odd ones (`Embedder.tally_of_even`). Both bits are those of the number
of odd bytes of the term (`sign_text`, `Embedder.even_bucket_text_iff`). Signs that alternate
by place are kept by the division by the length, and two vectors that have them have no
negative product (`Vector32.Alternating.exactDot_nonneg`), whichever terms they count.

Key definitions: `Vector32.exactDot`, `Vector32.Alternating`.
Key theorems: `Embedder.even_bucket_text_iff`, `Embedder.tally_of_even`,
`Embedder.sum_abs_counts`, `Vector32.Alternating.normalize`, `Embedder.nothing_cancels`.
-/

namespace DocSieve

open Single

theorem Rounds.nonneg {r q : ℝ} (h : Rounds r q) (hr : 0 ≤ r) : 0 ≤ q := by
  obtain ⟨T, -, -, -, ⟨z, rfl⟩, near⟩ := h
  have pos : (0 : ℝ) < 2 ^ T := by positivity
  -- A negative multiple of the last place is further away than half of it.
  have above : (-1 : ℝ) < z := by
    by_contra below
    have : (z : ℝ) * 2 ^ T ≤ -1 * 2 ^ T := mul_le_mul_of_nonneg_right (not_lt.mp below) pos.le
    linarith [(abs_le.mp near).1]
  have whole : 0 ≤ z := by
    have : -1 < z := by exact_mod_cast above
    omega
  exact mul_nonneg (by exact_mod_cast whole) pos.le

namespace Vector32

theorem support_eq_zero_iff {v : Vector32} : support v = 0 ↔ v.AllZero := by
  rw [support, Array.countP_eq_zero]
  exact forall₂_congr fun x _ => by rw [bne, Bool.not_eq_true', Bool.not_eq_false]

/-- The product of two vectors in exact arithmetic. -/
noncomputable def exactDot (v w : Vector32) : ℝ :=
  (List.zipWith (fun x y => real x * real y) v.toList w.toList).sum

/-- No component at an even place is negative, and none at an odd place is positive. -/
def Alternating (v : Vector32) : Prop :=
  ∀ b (bound : b < v.size), if Even b then 0 ≤ real v[b] else real v[b] ≤ 0

/-- Two vectors with alternating signs are never opposed. -/
theorem Alternating.exactDot_nonneg {v w : Vector32} (hv : v.Alternating) (hw : w.Alternating) :
    0 ≤ exactDot v w := by
  refine List.sum_nonneg fun r mem => ?_
  obtain ⟨b, bound, rfl⟩ := List.mem_iff_getElem.mp mem
  rw [List.length_zipWith, Array.length_toList, Array.length_toList] at bound
  have first := hv b (by omega)
  have second := hw b (by omega)
  rw [List.getElem_zipWith, Array.getElem_toList, Array.getElem_toList]
  split_ifs at first second
  · exact mul_nonneg first second
  · exact mul_nonneg_of_nonpos_of_nonpos first second

theorem Alternating.normalize {w : Vector32} (h : w.Alternating) (counts : ∀ x ∈ w, IsCount x) :
    w.normalize.Alternating := by
  obtain ⟨-, same⟩ | ⟨-, divided, lower⟩ := normalize_cases counts
  · rwa [same]
  rw [divided]
  intro b bound
  rw [Array.size_map] at bound
  have finite := (norm_within fun x mem => (counts x mem).moderate).1
  have pos : 0 < real (norm w) := (by positivity : (0 : ℝ) < 2 ^ (-76 : ℤ)).trans_le lower
  have rounds := ((counts _ (Array.getElem_mem bound)).quotient_rounds finite lower).2
  have sign := h b bound
  rw [Array.getElem_map]
  split_ifs at sign ⊢
  · exact rounds.nonneg (div_nonneg sign pos.le)
  · have opposite := rounds.neg.nonneg (neg_nonneg.mpr (div_nonpos_of_nonpos_of_nonneg sign pos.le))
    exact neg_nonneg.mp opposite

end Vector32

theorem sign_text (term : String) :
    sign (hashText term) = if Odd (oddBytes term.toUTF8.toList) then 1.0 else -1.0 := by
  rw [sign_eq_ofInt, direction]
  simp only [hashText, even_fnv1a_iff]
  split <;> rfl

namespace Embedder

variable (e : Embedder)

theorem length_share_cons (term : String) (terms : List String) (b : ℕ) :
    (e.share (term :: terms) b).length
      = (e.share terms b).length + if bucket e.dimensions (hashText term) = b then 1 else 0 := by
  rw [bucket_eq, share, List.filter_cons]
  by_cases here : (hashText term).toNat % e.dimensions.toNat = b <;> simp [here, share]

theorem sum_share (terms : List String) :
    ∑ b ∈ Finset.range e.dimensions.toNat, (e.share terms b).length = terms.length := by
  induction terms with
  | nil => exact Finset.sum_eq_zero fun _ _ => rfl
  | cons term terms ih =>
    have here : bucket e.dimensions (hashText term) ∈ Finset.range e.dimensions.toNat :=
      Finset.mem_range.mpr (e.bucket_lt _)
    simp only [length_share_cons]
    rw [Finset.sum_add_distrib, ih, Finset.sum_ite_eq, if_pos here, List.length_cons]

section Even

variable {e} (even : Even e.dimensions.toNat)

include even

theorem even_bucket_iff (hash : UInt64) : Even (bucket e.dimensions hash) ↔ Even hash.toNat := by
  rw [bucket_eq, Nat.even_iff, Nat.mod_mod_of_dvd _ even.two_dvd, ← Nat.even_iff]

theorem even_bucket_text_iff (term : String) :
    Even (bucket e.dimensions (hashText term)) ↔ Odd (oddBytes term.toUTF8.toList) :=
  (even_bucket_iff even _).trans (even_fnv1a_iff _)

/-- **The count of a component is its number of terms**, with the sign of its place. -/
theorem tally_of_even (terms : List String) (b : ℕ) : e.tally terms b
    = if Even b then ((e.share terms b).length : ℤ) else -((e.share terms b).length : ℤ) := by
  -- The terms of one component are all counted in the same direction.
  have same : ∀ term ∈ e.share terms b, direction (hashText term) = if Even b then 1 else -1 := by
    intro term mem
    have here : (hashText term).toNat % e.dimensions.toNat = b := by
      simpa using (List.mem_filter.mp mem).2
    rw [← bucket_eq] at here
    simp only [direction, ← here, even_bucket_iff even]
  rw [tally, List.map_congr_left same, List.map_const', List.sum_replicate, nsmul_eq_mul]
  split <;> ring

variable {terms : List String} (few : terms.length ≤ 2 ^ 24)

include few

theorem real_getElem_counts {b : ℕ} (bound : b < (e.counts terms).size) :
    (e.counts terms)[b].isFinite = true ∧ real (e.counts terms)[b]
      = if Even b then ((e.share terms b).length : ℝ) else -((e.share terms b).length : ℝ) := by
  obtain ⟨finite, value⟩ := e.real_tally few b
  rw [e.getElem_counts few]
  refine ⟨finite, ?_⟩
  rw [value, tally_of_even even]
  push_cast
  rfl

theorem alternating_counts : (e.counts terms).Alternating := by
  intro b bound
  rw [(real_getElem_counts even few bound).2]
  split <;> simp

theorem sum_abs_counts : ((e.counts terms).toList.map fun x => |real x|).sum = terms.length := by
  have magnitude (b : ℕ) : |real (ofInt (e.tally terms b))| = ((e.share terms b).length : ℝ) := by
    rw [(e.real_tally few b).2, tally_of_even even]
    split <;> simp
  rw [e.counts_eq terms few, Array.toList_ofFn, List.map_ofFn, List.sum_ofFn]
  simp only [Function.comp_apply, magnitude]
  rw [← Finset.sum_range fun b => ((e.share terms b).length : ℝ)]
  exact_mod_cast e.sum_share terms

theorem allZero_counts_iff : (e.counts terms).AllZero ↔ terms = [] := by
  refine ⟨fun zeros => ?_, ?_⟩
  · have total := sum_abs_counts even few
    have none : ((e.counts terms).toList.map fun x => |real x|).sum = 0 := by
      refine List.sum_eq_zero fun r mem => ?_
      obtain ⟨x, hx, rfl⟩ := List.mem_map.mp mem
      have hx : x ∈ e.counts terms := Array.mem_toList_iff.mp hx
      have finite := (isCount_of_mem_counts e terms x hx).1
      rw [(beq_zero_iff finite).mp (zeros x hx), abs_zero]
    rw [none] at total
    exact List.length_eq_zero_iff.mp (by exact_mod_cast total.symm)
  · rintro rfl
    exact Vector32.allZero_zeros _

end Even

/-- **With an even number of components nothing cancels.** The number of odd bytes of a term
decides both its sign and the parity of its component. So of at most `2^24` terms every
component counts its own, with a plus at even places and a minus at odd ones; the
magnitudes add up to the number of terms, all are zero only if there is no term, and no
two vectors have a negative product. Normalised the vectors keep both. -/
theorem nothing_cancels (e : Embedder) (even : Even e.dimensions.toNat) (terms : List String)
    (few : terms.length ≤ 2 ^ 24) :
    (∀ term : String, let odd := oddBytes term.toUTF8.toList
      sign (hashText term) = (if Odd odd then 1.0 else -1.0) ∧
      (Even (bucket e.dimensions (hashText term)) ↔ Odd odd)) ∧
    (∀ b (bound : b < (e.counts terms).size),
      let x := (e.counts terms)[b]
      let own : ℝ := (e.share terms b).length
      x.isFinite = true ∧ real x = if Even b then own else -own) ∧
    ((e.counts terms).toList.map fun x => |real x|).sum = terms.length ∧
    ((e.counts terms).AllZero ↔ terms = []) ∧
    (∀ v, e.embed terms = .ok v → (v.AllZero ↔ terms = [])) ∧
    ∀ others : List String, others.length ≤ 2 ^ 24 →
      0 ≤ Vector32.exactDot (e.counts terms) (e.counts others) ∧
      ∀ v w, e.embed terms = .ok v → e.embed others = .ok w → 0 ≤ Vector32.exactDot v w := by
  have counted := isCount_of_mem_counts e
  have alternating := alternating_counts even few
  have zeros := allZero_counts_iff even few
  refine ⟨fun term => ⟨sign_text term, even_bucket_text_iff even term⟩,
    fun b bound => real_getElem_counts even few bound, sum_abs_counts even few, zeros,
    fun v made => ?_, fun others few' => ?_⟩
  · rw [eq_of_embed made, ← Vector32.support_eq_zero_iff, Vector32.support_normalize (counted _),
      Vector32.support_eq_zero_iff, zeros]
  · have alternating' := alternating_counts even few'
    refine ⟨alternating.exactDot_nonneg alternating', fun v w made made' => ?_⟩
    rw [eq_of_embed made, eq_of_embed made']
    exact (alternating.normalize (counted _)).exactDot_nonneg (alternating'.normalize (counted _))

theorem usual_ne_zero : (1024 : UInt64) ≠ 0 := by decide

/-- The embedder with as many components as a configuration has that does not say. -/
def usual : Embedder := ⟨1024, usual_ne_zero⟩

/-- Three terms are counted as three, two of them downwards, and do not oppose two others. -/
theorem nothing_cancels_usual :
    let terms := ["hello", "world", "the"]
    let others := ["be", "to"]
    Even usual.dimensions.toNat ∧ terms.length ≤ 2 ^ 24 ∧ others.length ≤ 2 ^ 24 ∧
      sign (hashText "world") = -1.0 ∧
      ((usual.counts terms).toList.map fun x => |real x|).sum = 3 ∧
      ¬ (usual.counts terms).AllZero ∧
      0 ≤ Vector32.exactDot (usual.counts terms) (usual.counts others) := by
  intro terms others
  have even : Even usual.dimensions.toNat := by decide
  obtain ⟨signs, -, total, zeros, -, products⟩ :=
    nothing_cancels usual even terms (by decide)
  refine ⟨even, by decide, by decide, ?_, ?_, ?_, (products others (by decide)).1⟩
  · exact (signs "world").1.trans (if_neg (by decide +kernel))
  · rw [total]
    norm_num [terms]
  · rw [zeros]
    simp [terms]

end Embedder

end DocSieve
