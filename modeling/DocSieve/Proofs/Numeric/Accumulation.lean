import DocSieve.Embedding.Vector
import DocSieve.Proofs.Numeric.Arithmetic

/-!
# Relative errors that add up

Each rounding of a number that is not very small changes it by a factor from `1 - u`
to `1 + u`, where `u` is `2^-24`. `Within k r q` says that `q` is `r` after at most
`k` such factors; it adds up along products and is kept by sums of numbers that are
not negative. A sum of any length, taken from left to right, stays finite, since what
is far below the sum is rounded away, and is the exact sum after one factor for each
term that is not zero (`sum_within`).

Key definitions: `Within`, `Summand`.
Key theorems: `Within.trans`, `Within.mul`, `Within.ratio`, `sum_within`.
-/

namespace DocSieve

open Single

/-- The greatest relative error of one rounding. -/
noncomputable def roundoff : ℝ := scaled 1 (-24)

theorem roundoff_eq : roundoff = 1 / 2 ^ 24 := by
  unfold roundoff scaled
  norm_num

theorem roundoff_bounds : 0 < roundoff ∧ roundoff < 1 := by
  rw [roundoff_eq]
  constructor <;> norm_num

/-- `q` is the number `r`, not negative, after at most `k` roundings. -/
def Within (k : ℕ) (r q : ℝ) : Prop := (1 - roundoff) ^ k * r ≤ q ∧ q ≤ (1 + roundoff) ^ k * r

theorem lower_pos (k : ℕ) : 0 < (1 - roundoff) ^ k := pow_pos (by linarith [roundoff_bounds.2]) k

theorem lower_le_one (k : ℕ) : (1 - roundoff) ^ k ≤ 1 :=
  pow_le_one₀ (by linarith [roundoff_bounds.2]) (by linarith [roundoff_bounds.1])

theorem one_le_upper (k : ℕ) : 1 ≤ (1 + roundoff) ^ k :=
  one_le_pow₀ (by linarith [roundoff_bounds.1])

namespace Within

variable {k l : ℕ} {r q s p : ℝ}

theorem refl (hr : 0 ≤ r) : Within k r r :=
  ⟨mul_le_of_le_one_left hr (lower_le_one k), le_mul_of_one_le_left hr (one_le_upper k)⟩

theorem nonneg (h : Within k r q) (hr : 0 ≤ r) : 0 ≤ q :=
  (mul_nonneg (lower_pos k).le hr).trans h.1

theorem pos (h : Within k r q) (hr : 0 < r) : 0 < q := (mul_pos (lower_pos k) hr).trans_le h.1

theorem eq_zero (h : Within k 0 q) : q = 0 :=
  le_antisymm (by simpa using h.2) (by simpa using h.1)

theorem eq_zero_iff (h : Within k r q) (hr : 0 ≤ r) : q = 0 ↔ r = 0 := by
  constructor
  · rintro rfl
    exact hr.eq_of_not_lt' fun pos => (h.pos pos).ne rfl
  · rintro rfl
    exact h.eq_zero

theorem trans (h : Within k r q) (h' : Within l q s) : Within (k + l) r s := by
  have lower := (lower_pos l).le
  have upper : 0 ≤ (1 + roundoff) ^ l := zero_le_one.trans (one_le_upper l)
  constructor
  · calc (1 - roundoff) ^ (k + l) * r = (1 - roundoff) ^ l * ((1 - roundoff) ^ k * r) := by
          rw [pow_add]; ring
      _ ≤ (1 - roundoff) ^ l * q := mul_le_mul_of_nonneg_left h.1 lower
      _ ≤ s := h'.1
  · calc s ≤ (1 + roundoff) ^ l * q := h'.2
      _ ≤ (1 + roundoff) ^ l * ((1 + roundoff) ^ k * r) := mul_le_mul_of_nonneg_left h.2 upper
      _ = (1 + roundoff) ^ (k + l) * r := by rw [pow_add]; ring

theorem add (h : Within k r q) (h' : Within k s p) : Within k (r + s) (q + p) := by
  unfold Within
  rw [mul_add, mul_add]
  exact ⟨add_le_add h.1 h'.1, add_le_add h.2 h'.2⟩

theorem mul (h : Within k r q) (h' : Within l s p) (hr : 0 ≤ r) (hs : 0 ≤ s) :
    Within (k + l) (r * s) (q * p) := by
  have hq := h.nonneg hr
  have hp := h'.nonneg hs
  constructor
  · calc (1 - roundoff) ^ (k + l) * (r * s)
        = ((1 - roundoff) ^ k * r) * ((1 - roundoff) ^ l * s) := by rw [pow_add]; ring
      _ ≤ q * p := mul_le_mul h.1 h'.1 (mul_nonneg (lower_pos l).le hs) hq
  · calc q * p ≤ ((1 + roundoff) ^ k * r) * ((1 + roundoff) ^ l * s) :=
          mul_le_mul h.2 h'.2 hp (hq.trans h.2)
      _ = (1 + roundoff) ^ (k + l) * (r * s) := by rw [pow_add]; ring

theorem of_rounds (h : Rounds r q) (large : 2 ^ (-126 : ℤ) ≤ r) : Within 1 r q := by
  have hr : 0 ≤ r := (by positivity : (0 : ℝ) ≤ 2 ^ (-126 : ℤ)).trans large
  have near := h.relative (by rwa [abs_of_nonneg hr])
  rw [abs_of_nonneg hr, abs_le] at near
  unfold Within
  rw [roundoff_eq]
  constructor <;> linarith [near.1, near.2]

theorem of_rounds_abs (h : Rounds r q) (large : 2 ^ (-126 : ℤ) ≤ |r|) : Within 1 |r| |q| := by
  rcases le_total 0 r with hr | hr
  · rw [abs_of_nonneg hr] at large ⊢
    have within := of_rounds h large
    rwa [abs_of_nonneg (within.nonneg hr)]
  · rw [abs_of_nonpos hr] at large ⊢
    have within := of_rounds h.neg large
    rwa [← abs_neg q, abs_of_nonneg (within.nonneg (neg_nonneg.mpr hr))]

/-- At most `2^23` roundings leave at least half of a number, and at most double it. -/
theorem half_le (h : Within k r q) (hr : 0 ≤ r) (few : k ≤ 2 ^ 23) : r / 2 ≤ q ∧ q ≤ 2 * r := by
  have few : (k : ℝ) ≤ 2 ^ 23 := by exact_mod_cast few
  have half : 1 / 2 ≤ (1 - roundoff) ^ k := by
    have bernoulli := one_add_mul_le_pow (by linarith [roundoff_bounds.2] : -2 ≤ -roundoff) k
    rw [← sub_eq_add_neg] at bernoulli
    have : (k : ℝ) * roundoff ≤ 2 ^ 23 * roundoff :=
      mul_le_mul_of_nonneg_right few roundoff_bounds.1.le
    have : (2 : ℝ) ^ 23 * roundoff = 1 / 2 := by rw [roundoff_eq]; norm_num
    linarith
  have double : (1 + roundoff) ^ k ≤ 2 := by
    have product : (1 + roundoff) ^ k * (1 - roundoff) ^ k ≤ 1 := by
      rw [← mul_pow]
      refine pow_le_one₀ ?_ ?_ <;> nlinarith [roundoff_bounds.1, roundoff_bounds.2]
    have := mul_le_mul_of_nonneg_left half (zero_le_one.trans (one_le_upper k))
    linarith
  exact ⟨by linarith [h.1, mul_le_mul_of_nonneg_right half hr],
    h.2.trans (mul_le_mul_of_nonneg_right double hr)⟩

/-- A number over its own rounded value, rounded once more as often, is nearly one. -/
theorem ratio (h : Within k r p) (h' : Within k (r / p) q) (hr : 0 < r) :
    1 - k / 2 ^ 23 ≤ q := by
  have hu := roundoff_bounds
  have hp := h.pos hr
  have upper : 0 < (1 + roundoff) ^ k := zero_lt_one.trans_le (one_le_upper k)
  have quotient : 1 / (1 + roundoff) ^ k ≤ r / p := by
    rw [div_le_div_iff₀ upper hp, one_mul, mul_comm]
    exact h.2
  have factor : 1 - 2 * roundoff ≤ (1 - roundoff) / (1 + roundoff) := by
    rw [le_div_iff₀ (by linarith)]
    nlinarith
  have bernoulli := one_add_mul_le_pow (by linarith : -2 ≤ -(2 * roundoff)) k
  calc 1 - k / 2 ^ 23 = 1 + k * -(2 * roundoff) := by rw [roundoff_eq]; ring
    _ ≤ (1 + -(2 * roundoff)) ^ k := bernoulli
    _ = (1 - 2 * roundoff) ^ k := by rw [← sub_eq_add_neg]
    _ ≤ ((1 - roundoff) / (1 + roundoff)) ^ k := by
      refine pow_le_pow_left₀ ?_ factor k
      rw [roundoff_eq]
      norm_num
    _ = (1 - roundoff) ^ k * (1 / (1 + roundoff) ^ k) := by rw [div_pow]; ring
    _ ≤ (1 - roundoff) ^ k * (r / p) := mul_le_mul_of_nonneg_left quotient (lower_pos k).le
    _ ≤ q := h'.1

/-- What holds of every pair of terms holds of the sums. -/
theorem sum {α : Type} {f g : α → ℝ} {xs : List α} (h : ∀ x ∈ xs, Within k (f x) (g x)) :
    Within k (xs.map f).sum (xs.map g).sum := by
  induction xs with
  | nil => simpa using refl (k := k) le_rfl
  | cons x xs ih =>
    rw [List.map_cons, List.map_cons, List.sum_cons, List.sum_cons]
    exact (h x List.mem_cons_self).add (ih fun y mem => h y (List.mem_cons_of_mem _ mem))

end Within

/-! ### Sums of terms that are not negative -/

/-- A finite term of a sum: zero, or neither very small nor above `2^81`. -/
structure Summand (p : Float32) : Prop where
  finite : p.isFinite = true
  lower : real p = 0 ∨ 2 ^ (-126 : ℤ) ≤ real p
  upper : real p ≤ 2 ^ 81

theorem Summand.nonneg {p : Float32} (h : Summand p) : 0 ≤ real p := by
  rcases h.lower with zero | large
  · exact zero.ge
  · exact (by positivity : (0 : ℝ) ≤ 2 ^ (-126 : ℤ)).trans large

/-- A sum so far: finite, not negative, and not above `2^106`. -/
structure Partial (s : Float32) : Prop where
  finite : s.isFinite = true
  nonneg : 0 ≤ real s
  upper : real s ≤ 2 ^ 106

/-- One more term keeps the sum in its range, with one rounding if the term is not zero. -/
theorem Partial.add {s p : Float32} (hs : Partial s) (hp : Summand p) :
    Partial (s + p) ∧
      Within (if p != 0.0 then 1 else 0) (real s + real p) (real (s + p)) := by
  have nonneg : 0 ≤ real s + real p := add_nonneg hs.nonneg hp.nonneg
  have hs' := hs.upper
  have hp' := hp.upper
  have approx := add_rounds hs.finite hp.finite (by
    rw [abs_of_nonneg nonneg]
    linarith [(by norm_num : (2 : ℝ) ^ 106 + 2 ^ 81 < 2 ^ 127)])
  have upper : |real (s + p)| ≤ 2 ^ 106 := by
    have := approx.2.le_pow (K := 106) (by norm_num) (by
      rw [abs_of_nonneg nonneg]
      linarith [(by norm_num : (2 : ℝ) ^ 106 + 2 ^ 81 < 2 ^ (106 : ℤ) + 2 ^ (106 - 24 : ℤ))])
    exact_mod_cast this
  have within : Within (if p != 0.0 then 1 else 0) (real s + real p) (real (s + p)) := by
    by_cases zero : real p = 0
    · rw [zero, add_zero] at approx nonneg ⊢
      rw [approx.exact hs.finite rfl]
      exact Within.refl nonneg
    · rw [if_pos ((bne_zero_iff hp.finite).mpr zero)]
      refine Within.of_rounds approx.2 ?_
      linarith [hp.lower.resolve_left zero, hs.nonneg]
  exact ⟨⟨approx.1, within.nonneg nonneg, (le_abs_self _).trans upper⟩, within⟩

/-- **A sum of any length is the exact sum, with one rounding for each term that is
not zero**, and stays in its range. -/
theorem sum_within {ps : List Float32} (h : ∀ p ∈ ps, Summand p) {s : Float32} (hs : Partial s) :
    Partial (ps.foldl (· + ·) s) ∧
      Within (ps.countP (· != 0.0)) (real s + (ps.map real).sum) (real (ps.foldl (· + ·) s)) := by
  induction ps generalizing s with
  | nil => exact ⟨hs, by simpa using Within.refl hs.nonneg⟩
  | cons p ps ih =>
    have hp := h p List.mem_cons_self
    have hps := fun y mem => h y (List.mem_cons_of_mem p mem)
    have rest : 0 ≤ (ps.map real).sum := List.sum_nonneg fun r mem => by
      obtain ⟨y, hy, rfl⟩ := List.mem_map.mp mem
      exact (hps y hy).nonneg
    obtain ⟨first, within⟩ := hs.add hp
    obtain ⟨last, further⟩ := ih hps first
    have all := (within.add (Within.refl rest)).trans further
    refine ⟨last, ?_⟩
    rw [List.countP_cons, List.map_cons, List.sum_cons, ← add_assoc, add_comm (List.countP _ ps)]
    exact all

theorem partial_neg_zero : Partial (-0.0) :=
  ⟨rfl, real_neg_zero.ge, by rw [real_neg_zero]; norm_num⟩

end DocSieve
