import DocSieve.Proofs.Embedding.Counts
import DocSieve.Proofs.Numeric.Accumulation

/-!
# The length of an embedding

The length of a normalised vector of counts is one up to rounding. If `n` components
are not zero, the squared length of the counts is computed with at most `n + 1`
roundings, so the square of the computed length is the exact one after `n + 3`; each
component is divided with one rounding, and the dot product of the result with itself
has another `n + 1`. The errors of both can go in opposite directions, and still the
similarity of the embedding to itself is at least `1 - (n + 3) / 2^23`
(`Vector32.self_similarity`).

Key definitions: `Vector32.support`, `Vector32.energy`, `Moderate`.
Key theorems: `Vector32.dot_self_within`, `Vector32.support_normalize`,
`Vector32.self_similarity`.
-/

namespace DocSieve

open Single

/-- The number of components that are not zero. -/
def Vector32.support (v : Vector32) : Nat := v.countP (· != 0.0)

theorem Vector32.support_eq (v : Vector32) : support v = v.toList.countP (· != 0.0) :=
  Array.countP_toList.symm

/-- The exact square of the length of a vector of finite numbers. -/
noncomputable def Vector32.energy (v : Vector32) : ℝ := (v.toList.map fun x => real x ^ 2).sum

open Vector32

theorem Vector32.energy_nonneg (v : Vector32) : 0 ≤ energy v := List.sum_nonneg fun r mem => by
  obtain ⟨x, -, rfl⟩ := List.mem_map.mp mem
  positivity

theorem Vector32.sq_le_energy {v : Vector32} {x : Float32} (mem : x ∈ v) :
    real x ^ 2 ≤ energy v := by
  refine List.single_le_sum (fun r mem => ?_) _ (List.mem_map_of_mem (Array.mem_toList_iff.mpr mem))
  obtain ⟨y, -, rfl⟩ := List.mem_map.mp mem
  positivity

theorem Vector32.energy_eq_zero_iff {v : Vector32} (finite : ∀ x ∈ v, x.isFinite = true) :
    energy v = 0 ↔ support v = 0 := by
  have zero_iff : support v = 0 ↔ ∀ x ∈ v, real x = 0 := by
    rw [support_eq, List.countP_eq_zero]
    refine forall_congr' fun x => ?_
    rw [Array.mem_toList_iff]
    refine imp_congr_right fun mem => ?_
    rw [bne_zero_iff (finite x mem), not_not]
  rw [zero_iff]
  constructor
  · intro none x mem
    have := sq_le_energy mem
    rw [none] at this
    exact pow_eq_zero_iff two_ne_zero |>.mp (this.antisymm (sq_nonneg _))
  · intro zero
    refine List.sum_eq_zero fun r mem => ?_
    obtain ⟨x, hx, rfl⟩ := List.mem_map.mp mem
    rw [zero x (Array.mem_toList_iff.mp hx), zero_pow two_ne_zero]

/-! ### Squares and their sum -/

/-- A finite number whose square is neither very large nor, unless it is zero, very
small. -/
structure Moderate (x : Float32) : Prop where
  finite : x.isFinite = true
  lower : real x = 0 ∨ 2 ^ (-60 : ℤ) ≤ |real x|
  upper : |real x| ≤ 2 ^ 40

/-- The square of a moderate number can be summed, and is rounded once. -/
theorem Moderate.square {x : Float32} (h : Moderate x) :
    Summand (x * x) ∧ Within 1 (real x ^ 2) (real (x * x)) := by
  have size : real x * real x = |real x| * |real x| := (abs_mul_abs_self _).symm
  have upper : |real x| * |real x| ≤ 2 ^ 40 * 2 ^ 40 :=
    mul_le_mul h.upper h.upper (abs_nonneg _) (by norm_num)
  have nonneg : 0 ≤ real x * real x := mul_self_nonneg _
  have approx := mul_rounds h.finite h.finite (by
    rw [abs_of_nonneg nonneg, size]
    exact upper.trans_lt (by norm_num))
  have within : Within 1 (real x ^ 2) (real (x * x)) := by
    rw [sq]
    rcases h.lower with zero | large
    · have rounds := approx.2
      rw [zero, mul_zero] at rounds ⊢
      rw [rounds.of_zero]
      exact Within.refl le_rfl
    · refine Within.of_rounds approx.2 ?_
      rw [size]
      calc (2 : ℝ) ^ (-126 : ℤ) ≤ 2 ^ (-60 : ℤ) * 2 ^ (-60 : ℤ) := by norm_num
        _ ≤ |real x| * |real x| := mul_le_mul large large (by positivity) (abs_nonneg _)
  refine ⟨⟨approx.1, ?_, ?_⟩, within⟩
  · rcases h.lower with zero | large
    · left
      rw [zero, zero_pow two_ne_zero] at within
      exact within.eq_zero
    · right
      have half := (within.half_le (by positivity) (by norm_num)).1
      rw [sq, size] at half
      calc (2 : ℝ) ^ (-126 : ℤ) ≤ 2 ^ (-60 : ℤ) * 2 ^ (-60 : ℤ) / 2 := by norm_num
        _ ≤ |real x| * |real x| / 2 := by gcongr
        _ ≤ real (x * x) := half
  · have double := (within.half_le (by positivity) (by norm_num)).2
    rw [sq, size] at double
    linarith [(by norm_num : (2 : ℝ) * (2 ^ 40 * 2 ^ 40) = 2 ^ 81)]

theorem Moderate.square_nonzero {x : Float32} (h : Moderate x) :
    (x * x != 0.0) = (x != 0.0) := by
  obtain ⟨summand, within⟩ := h.square
  rw [Bool.eq_iff_iff, bne_zero_iff summand.finite, bne_zero_iff h.finite,
    not_iff_not, within.eq_zero_iff (by positivity), sq_eq_zero_iff]

theorem Vector32.dot_self_eq (v : Vector32) :
    dot v v = (v.toList.map fun x => x * x).foldl (· + ·) (-0.0) := by
  unfold dot sum
  rw [← Array.foldl_toList, Array.toList_zipWith, List.zipWith_self]

/-- **The dot product of a vector with itself is its exact square length, with one
rounding for the squares and one for each component that is not zero.** -/
theorem Vector32.dot_self_within {v : Vector32} (h : ∀ x ∈ v, Moderate x) :
    Partial (dot v v) ∧ Within (1 + support v) (energy v) (real (dot v v)) := by
  have h' : ∀ x ∈ v.toList, Moderate x := fun x mem => h x (Array.mem_toList_iff.mp mem)
  have summands : ∀ p ∈ v.toList.map fun x => x * x, Summand p := by
    intro p mem
    obtain ⟨x, hx, rfl⟩ := List.mem_map.mp mem
    exact (h' x hx).square.1
  have squares := Within.sum fun x mem => (h' x mem).square.2
  obtain ⟨last, total⟩ := sum_within summands partial_neg_zero
  rw [real_neg_zero, zero_add, List.map_map, List.countP_map] at total
  have same : v.toList.countP ((· != 0.0) ∘ fun x => x * x) = support v := by
    rw [support_eq]
    exact List.countP_congr fun x mem => by simp [(h' x mem).square_nonzero]
  rw [same] at total
  rw [dot_self_eq]
  exact ⟨last, squares.trans total⟩

/-! ### The computed length -/

theorem IsCount.moderate {x : Float32} (h : IsCount x) : Moderate x := by
  obtain ⟨finite, z, value, bound⟩ := h
  have bound : |(z : ℝ)| ≤ 2 ^ 25 := by exact_mod_cast bound
  refine ⟨finite, ?_, ?_⟩
  · by_cases zero : z = 0
    · left
      rw [value, zero, Int.cast_zero]
    · right
      have one : (1 : ℝ) ≤ |(z : ℝ)| := by exact_mod_cast Int.one_le_abs zero
      rw [value]
      exact (by norm_num : (2 : ℝ) ^ (-60 : ℤ) ≤ 1).trans one
  · rw [value]
    exact bound.trans (by norm_num)

/-- The computed length of a vector is a root, rounded, and neither very small nor very
large unless it is zero. -/
theorem Vector32.norm_within {v : Vector32} (h : ∀ x ∈ v, Moderate x) :
    (norm v).isFinite = true ∧ Within 1 √(real (dot v v)) (real (norm v)) ∧
      (real (norm v) = 0 ∨ 2 ^ (-76 : ℤ) ≤ real (norm v)) ∧ real (norm v) ≤ 2 ^ 54 := by
  obtain ⟨finite, nonneg, upper⟩ := (dot_self_within h).1
  have approx := sqrt_rounds finite nonneg
  change Approximates (norm v) _ at approx
  have root : √(real (dot v v)) = 0 ∨ 2 ^ (-75 : ℤ) ≤ √(real (dot v v)) := by
    rcases nonneg.eq_or_lt with zero | pos
    · left
      rw [← zero, Real.sqrt_zero]
    · right
      refine Real.le_sqrt_of_sq_le ((le_of_lt ?_).trans (least_le finite pos))
      norm_num
  have within : Within 1 √(real (dot v v)) (real (norm v)) := by
    rcases root with zero | large
    · have rounds := approx.2
      rw [zero] at rounds ⊢
      rw [rounds.of_zero]
      exact Within.refl le_rfl
    · exact Within.of_rounds approx.2 (le_trans (by norm_num) large)
  obtain ⟨half, double⟩ := within.half_le (Real.sqrt_nonneg _) (by norm_num)
  refine ⟨approx.1, within, ?_, ?_⟩
  · rcases root with zero | large
    · left
      rw [zero] at within
      exact within.eq_zero
    · right
      calc (2 : ℝ) ^ (-76 : ℤ) = 2 ^ (-75 : ℤ) / 2 := by norm_num
        _ ≤ √(real (dot v v)) / 2 := by gcongr
        _ ≤ real (norm v) := half
  · have top : √(real (dot v v)) ≤ 2 ^ 53 := by
      rw [Real.sqrt_le_left (by norm_num)]
      exact upper.trans (by norm_num)
    linarith [(by norm_num : (2 : ℝ) * 2 ^ 53 = 2 ^ 54)]

/-! ### The normalised vector -/

/-- A component of the counts divided by a computed length is the exact quotient, rounded. -/
theorem IsCount.quotient_rounds {x length : Float32} (h : IsCount x)
    (finite : length.isFinite = true) (lower : 2 ^ (-76 : ℤ) ≤ real length) :
    Approximates (x / length) (real x / real length) := by
  obtain ⟨fx, z, value, bound⟩ := h
  have pos : 0 < real length := (by positivity : (0 : ℝ) < 2 ^ (-76 : ℤ)).trans_le lower
  have bound : |(z : ℝ)| ≤ 2 ^ 25 := by exact_mod_cast bound
  refine div_rounds fx finite pos.ne' ?_
  rw [abs_div, abs_of_pos pos, value, div_lt_iff₀ pos]
  calc |(z : ℝ)| ≤ 2 ^ 25 := bound
    _ < 2 ^ 127 * 2 ^ (-76 : ℤ) := by norm_num
    _ ≤ 2 ^ 127 * real length := by gcongr

theorem IsCount.quotient_within {x length : Float32} (h : IsCount x)
    (finite : length.isFinite = true) (lower : 2 ^ (-76 : ℤ) ≤ real length)
    (upper : real length ≤ 2 ^ 54) :
    (x / length).isFinite = true ∧ Within 1 (|real x| / real length) |real (x / length)| := by
  have approx := h.quotient_rounds finite lower
  obtain ⟨-, z, value, -⟩ := h
  have pos : 0 < real length := (by positivity : (0 : ℝ) < 2 ^ (-76 : ℤ)).trans_le lower
  refine ⟨approx.1, ?_⟩
  by_cases zero : z = 0
  · have none : real x = 0 := by rw [value, zero, Int.cast_zero]
    have rounds := approx.2
    rw [none, zero_div] at rounds
    rw [rounds.of_zero, none, abs_zero, zero_div]
    exact Within.refl le_rfl
  · have one : (1 : ℝ) ≤ |(z : ℝ)| := by exact_mod_cast Int.one_le_abs zero
    have within := Within.of_rounds_abs approx.2 (by
      rw [abs_div, abs_of_pos pos, value, le_div_iff₀ pos]
      calc (2 : ℝ) ^ (-126 : ℤ) * real length ≤ 2 ^ (-126 : ℤ) * 2 ^ 54 := by gcongr
        _ ≤ 1 := by norm_num
        _ ≤ |(z : ℝ)| := one)
    rwa [abs_div, abs_of_pos pos] at within

theorem IsCount.quotient_moderate {x length : Float32} (h : IsCount x)
    (finite : length.isFinite = true) (lower : 2 ^ (-76 : ℤ) ≤ real length)
    (upper : real length ≤ 2 ^ 54) (part : real x ^ 2 ≤ 2 * (real length * real length)) :
    Moderate (x / length) := by
  have pos : 0 < real length := (by positivity : (0 : ℝ) < 2 ^ (-76 : ℤ)).trans_le lower
  obtain ⟨fq, within⟩ := h.quotient_within finite lower upper
  obtain ⟨half, double⟩ := within.half_le (by positivity) (by norm_num)
  refine ⟨fq, ?_, ?_⟩
  · obtain ⟨-, z, value, -⟩ := h
    by_cases zero : z = 0
    · left
      rw [value, zero, Int.cast_zero, abs_zero, zero_div] at within
      exact abs_eq_zero.mp within.eq_zero
    · right
      have one : (1 : ℝ) ≤ |real x| := by
        rw [value]
        exact_mod_cast Int.one_le_abs zero
      calc (2 : ℝ) ^ (-60 : ℤ) ≤ 1 / 2 ^ 54 / 2 := by norm_num
        _ ≤ |real x| / real length / 2 := by gcongr
        _ ≤ |real (x / length)| := half
  · have small : |real x| / real length ≤ 2 := by
      rw [div_le_iff₀ pos]
      refine abs_le_of_sq_le_sq (part.trans ?_) (by positivity)
      linarith [mul_self_nonneg (real length), mul_pow 2 (real length) 2, sq (real length)]
    linarith [(by norm_num : (2 : ℝ) * 2 ≤ 2 ^ 40)]

theorem Vector32.energy_quotient {v : Vector32} {length : Float32}
    (each : ∀ x ∈ v, Within 1 (|real x| / real length) |real (x / length)|)
    (pos : 0 < real length) :
    Within 2 (energy v / (real length * real length)) (energy (v.map (· / length))) := by
  have squares := Within.sum
    (f := fun x => (|real x| / real length) * (|real x| / real length))
    (g := fun x => |real (x / length)| * |real (x / length)|) fun x (mem : x ∈ v.toList) =>
      (each x (Array.mem_toList_iff.mp mem)).mul (each x (Array.mem_toList_iff.mp mem))
        (by positivity) (by positivity)
  have before : (v.toList.map fun x => (|real x| / real length) * (|real x| / real length)).sum
      = energy v / (real length * real length) := by
    unfold energy
    rw [div_eq_mul_inv, ← List.sum_map_mul_right]
    congr 2
    funext x
    rw [div_mul_div_comm, abs_mul_abs_self, sq, div_eq_mul_inv]
  have after : (v.toList.map fun x => |real (x / length)| * |real (x / length)|).sum
      = energy (v.map (· / length)) := by
    unfold energy
    rw [Array.toList_map, List.map_map]
    congr 2
    funext x
    rw [abs_mul_abs_self, Function.comp_apply, sq]
  rwa [before, after] at squares

theorem Vector32.normalize_cases {w : Vector32} (counts : ∀ x ∈ w, IsCount x) :
    (support w = 0 ∧ normalize w = w) ∨
      (0 < support w ∧ normalize w = w.map (· / norm w) ∧ 2 ^ (-76 : ℤ) ≤ real (norm w)) := by
  have moderate : ∀ x ∈ w, Moderate x := fun x mem => (counts x mem).moderate
  obtain ⟨finite, within, lower, -⟩ := norm_within moderate
  have total := (dot_self_within moderate).2
  have above_iff : norm w > 0.0 ↔ 0 < real (norm w) := by
    change 0.0 < norm w ↔ _
    rw [lt_iff_real rfl finite, real_zero]
  have none_iff := energy_eq_zero_iff fun x mem => (counts x mem).1
  unfold normalize
  by_cases zero : support w = 0
  · have noLength : real (norm w) = 0 := by
      rw [none_iff.mpr zero] at total
      rw [total.eq_zero, Real.sqrt_zero] at within
      exact within.eq_zero
    have notAbove : ¬ norm w > 0.0 := by
      rw [above_iff, noLength]
      exact lt_irrefl 0
    exact .inl ⟨zero, if_neg notAbove⟩
  · have pos : 0 < energy w :=
      (energy_nonneg w).lt_of_ne' fun none => zero (none_iff.mp none)
    have length := within.pos (Real.sqrt_pos.mpr (total.pos pos))
    exact .inr ⟨Nat.pos_of_ne_zero zero, if_pos (above_iff.mpr length),
      lower.resolve_left length.ne'⟩

theorem Vector32.support_normalize {w : Vector32} (counts : ∀ x ∈ w, IsCount x) :
    support (normalize w) = support w := by
  obtain ⟨-, eq⟩ | ⟨-, eq, lower⟩ := normalize_cases counts
  · rw [eq]
  obtain ⟨finite, -, -, upper⟩ := norm_within fun x mem => (counts x mem).moderate
  have pos : 0 < real (norm w) := (by positivity : (0 : ℝ) < 2 ^ (-76 : ℤ)).trans_le lower
  rw [eq, support_eq, support_eq, Array.toList_map, List.countP_map]
  refine List.countP_congr fun x mem => ?_
  have count := counts x (Array.mem_toList_iff.mp mem)
  obtain ⟨fq, within⟩ := count.quotient_within finite lower upper
  have same := within.eq_zero_iff (by positivity)
  rw [abs_eq_zero, div_eq_zero_iff, abs_eq_zero, or_iff_left pos.ne'] at same
  rw [Function.comp_apply, bne_zero_iff fq, bne_zero_iff count.1, ne_eq, same]

/-- **The similarity of an embedding to itself is nearly one.** Of counts with `n`
components that are not zero, one to `2^23 - 3`, the normalised vector has a dot product
with itself of at least `1 - (n + 3) / 2^23`. -/
theorem Vector32.self_similarity {w : Vector32} (counts : ∀ x ∈ w, IsCount x)
    (nonzero : 0 < support w) (few : support w + 3 ≤ 2 ^ 23) :
    (dot (normalize w) (normalize w)).isFinite = true ∧
      1 - ((support w + 3 : ℕ) : ℝ) / 2 ^ 23 ≤ real (dot (normalize w) (normalize w)) := by
  obtain ⟨zero, -⟩ | ⟨-, eq, lower⟩ := normalize_cases counts
  · omega
  have moderate : ∀ x ∈ w, Moderate x := fun x mem => (counts x mem).moderate
  obtain ⟨finite, within, -, upper⟩ := norm_within moderate
  obtain ⟨square, total⟩ := dot_self_within moderate
  have pos : 0 < real (norm w) := (by positivity : (0 : ℝ) < 2 ^ (-76 : ℤ)).trans_le lower
  have energyPos : 0 < energy w := by
    refine (energy_nonneg w).lt_of_ne' fun none => ?_
    have := (energy_eq_zero_iff fun x mem => (counts x mem).1).mp none
    omega
  -- The square of the computed length is the exact one after `n + 3` roundings.
  have length : Within (support w + 3) (energy w) (real (norm w) * real (norm w)) := by
    have root := within.mul within (Real.sqrt_nonneg _) (Real.sqrt_nonneg _)
    rw [Real.mul_self_sqrt square.nonneg] at root
    have all := total.trans root
    rwa [show 1 + support w + (1 + 1) = support w + 3 by omega] at all
  have parts : ∀ y ∈ normalize w, Moderate y := by
    intro y mem
    rw [eq] at mem
    obtain ⟨x, hx, rfl⟩ := Array.mem_map.mp mem
    refine (counts x hx).quotient_moderate finite lower upper ((sq_le_energy hx).trans ?_)
    linarith [(length.half_le energyPos.le few).1]
  obtain ⟨last, similarity⟩ := dot_self_within parts
  rw [support_normalize counts] at similarity
  have squares := energy_quotient
    (fun x mem => ((counts x mem).quotient_within finite lower upper).2) pos
  rw [← eq] at squares
  have all := squares.trans similarity
  rw [show 2 + (1 + support w) = support w + 3 by omega] at all
  exact ⟨last.finite, length.ratio all energyPos⟩

end DocSieve
