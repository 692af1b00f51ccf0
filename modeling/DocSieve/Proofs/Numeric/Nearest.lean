import DocSieve.Numeric.Shortest
import DocSieve.Proofs.Numeric.Order

/-!
# The nearest magnitude of a format

The reals that a magnitude is nearest to lie between the halfway points to its
neighbours, and an end counts if the significand is even (`Magnitude.Around`). Rounding
a ratio finds the bits of the magnitude around which the ratio lies
(`BinaryFormat.roundRatio_eq`), and a decimal reads back to a magnitude if it lies
around it (`Magnitude.readsBack_iff`). Both go over to the reals, where a power of two or
ten with any exponent is a number.

Key definitions: `Magnitude.Around`, `Decimal.real`, `Magnitude.real`.
Key theorems: `BinaryFormat.roundRatio_eq`, `Magnitude.readsBack_iff`.
-/

namespace DocSieve

/-! ### Numbers -/

theorem zpow_eq_div {b : ℝ} (hb : b ≠ 0) (k : ℤ) : b ^ k = b ^ k.toNat / b ^ (-k).toNat := by
  rw [eq_div_iff (pow_ne_zero _ hb), ← zpow_natCast, ← zpow_natCast, ← zpow_add₀ hb]
  congr 1
  omega

/-- The number that a decimal stands for. -/
noncomputable def Decimal.real (d : Decimal) : ℝ := d.digits * 10 ^ d.exponent

namespace Magnitude

variable (x : Magnitude)

/-- The number that a magnitude stands for. -/
noncomputable def real : ℝ := scaled x.significand x.exponent

/-- Four times the significand, halfway to the magnitude below. -/
def below : ℕ := if x.narrowBelow then 4 * x.significand - 1 else 4 * x.significand - 2

/-- Halfway to the magnitude below. -/
noncomputable def lower : ℝ := scaled x.below (x.exponent - 2)

/-- Halfway to the magnitude above. -/
noncomputable def upper : ℝ := scaled (4 * x.significand + 2) (x.exponent - 2)

/-- The part of a unit that lies between a magnitude and halfway to the one below. -/
noncomputable def reach : ℝ := scaled 1 (if x.narrowBelow then -2 else -1)

theorem reach_eq : x.reach = if x.narrowBelow then 1 / 4 else 1 / 2 := by
  unfold reach scaled
  split_ifs <;> norm_num

theorem reach_le : x.reach ≤ 1 / 2 := by
  rw [reach_eq]
  split_ifs <;> norm_num

theorem quarter_le_reach : 1 / 4 ≤ x.reach := by
  rw [reach_eq]
  split_ifs <;> norm_num

theorem upper_eq : x.upper = (x.significand + 1 / 2) * 2 ^ x.exponent := by
  rw [upper, scaled, zpow_sub₀ two_ne_zero]
  push_cast
  ring

theorem lower_eq (pos : 0 < x.significand) :
    x.lower = (x.significand - x.reach) * 2 ^ x.exponent := by
  have cast : (x.below : ℝ) = 4 * x.significand - if x.narrowBelow then 1 else 2 := by
    unfold below
    split_ifs
    · rw [Nat.cast_sub (by omega)]
      push_cast
      ring
    · rw [Nat.cast_sub (by omega)]
      push_cast
      ring
  rw [lower, scaled, cast, reach_eq, zpow_sub₀ two_ne_zero]
  split_ifs <;> ring

/-- No magnitude is nearer to the number; of two the one with an even significand counts. -/
def Around (r : ℝ) : Prop :=
  (x.lower < r ∨ x.lower = r ∧ Even x.significand) ∧
    (r < x.upper ∨ r = x.upper ∧ Even x.significand)

variable {x}

theorem around_iff (pos : 0 < x.significand) {y : ℝ} : x.Around (y * 2 ^ x.exponent) ↔
    (x.significand - x.reach < y ∨ x.significand - x.reach = y ∧ Even x.significand) ∧
    (y < x.significand + 1 / 2 ∨ y = x.significand + 1 / 2 ∧ Even x.significand) := by
  have unit : (0 : ℝ) < 2 ^ x.exponent := by positivity
  simp only [Around, x.lower_eq pos, x.upper_eq, mul_lt_mul_iff_left₀ unit,
    mul_left_inj' unit.ne']

end Magnitude

/-! ### Decimals -/

namespace Decimal

variable (d : Decimal) (n : ℕ) (k : ℤ)

theorem compareBinary_eq : d.compareBinary n k = cmp d.real (scaled n k) := by
  have two : (0 : ℝ) < 2 ^ (-k).toNat := by positivity
  have ten : (0 : ℝ) < 10 ^ (-d.exponent).toNat := by positivity
  have left : d.real = (d.digits * 10 ^ d.exponent.toNat * 2 ^ (-k).toNat : ℕ)
      / (10 ^ (-d.exponent).toNat * 2 ^ (-k).toNat) := by
    rw [real, zpow_eq_div (by norm_num)]
    push_cast
    field_simp
  have right : scaled n k = (n * 2 ^ k.toNat * 10 ^ (-d.exponent).toNat : ℕ)
      / (10 ^ (-d.exponent).toNat * 2 ^ (-k).toNat) := by
    rw [scaled, zpow_eq_div (by norm_num)]
    push_cast
    field_simp
  rw [left, right, (strictMono_div_right_of_pos (mul_pos ten two)).cmp_map_eq,
    Nat.strictMono_cast.cmp_map_eq, cmp_eq_compare]
  rfl

theorem compareBinary_eq_lt : d.compareBinary n k = .lt ↔ d.real < scaled n k := by
  rw [compareBinary_eq, cmp_eq_lt_iff]

theorem compareBinary_eq_eq : d.compareBinary n k = .eq ↔ d.real = scaled n k := by
  rw [compareBinary_eq, cmp_eq_eq_iff]

theorem compareBinary_eq_gt : d.compareBinary n k = .gt ↔ scaled n k < d.real := by
  rw [compareBinary_eq, cmp_eq_gt_iff]

end Decimal

/-- **A decimal reads back to a magnitude if it lies around it.** -/
theorem Magnitude.readsBack_iff (x : Magnitude) (d : Decimal) :
    x.readsBack d = true ↔ x.Around d.real := by
  have lower : (d.compareBinary x.below (x.exponent - 2) == .gt
      || (x.significand % 2 == 0 && d.compareBinary x.below (x.exponent - 2) == .eq)) = true
      ↔ x.lower < d.real ∨ x.lower = d.real ∧ Even x.significand := by
    simp only [Bool.or_eq_true, Bool.and_eq_true, beq_iff_eq, d.compareBinary_eq_gt,
      d.compareBinary_eq_eq, Nat.even_iff, eq_comm (a := d.real), and_comm]
    rfl
  have upper : (d.compareBinary (4 * x.significand + 2) (x.exponent - 2) == .lt
      || (x.significand % 2 == 0
        && d.compareBinary (4 * x.significand + 2) (x.exponent - 2) == .eq)) = true
      ↔ d.real < x.upper ∨ d.real = x.upper ∧ Even x.significand := by
    simp only [Bool.or_eq_true, Bool.and_eq_true, beq_iff_eq, d.compareBinary_eq_lt,
      d.compareBinary_eq_eq, Nat.even_iff, and_comm]
    rfl
  rw [Around, ← lower, ← upper]
  exact Bool.and_eq_true_iff

/-! ### Rounding a ratio -/

section Ratio

variable {num den : ℕ}

theorem mul_pow_lt_mul_pow_iff (hd : 0 < den) (k : ℤ) :
    num * Nat.pow 2 (-k).toNat < den * Nat.pow 2 k.toNat ↔ (num / den : ℝ) < 2 ^ k := by
  have hd' : (0 : ℝ) < den := by exact_mod_cast hd
  rw [zpow_eq_div two_ne_zero, div_lt_div_iff₀ hd' (by positivity), mul_comm (2 ^ _ : ℝ)]
  simp only [Nat.pow_eq]
  exact_mod_cast Iff.rfl

theorem floorLog2_spec (hn : 0 < num) (hd : 0 < den) :
    (2 : ℝ) ^ BinaryFormat.floorLog2 num den ≤ num / den ∧
      (num / den : ℝ) < 2 ^ (BinaryFormat.floorLog2 num den + 1) := by
  have hn' : (0 : ℝ) < num := by exact_mod_cast hn
  have hd' : (0 : ℝ) < den := by exact_mod_cast hd
  have numLower : (2 : ℝ) ^ (num.log2 : ℤ) ≤ num := by
    exact_mod_cast Nat.log2_self_le hn.ne'
  have numUpper : (num : ℝ) < 2 ^ (num.log2 + 1 : ℤ) := by
    exact_mod_cast Nat.lt_log2_self (n := num)
  have denLower : (2 : ℝ) ^ (den.log2 : ℤ) ≤ den := by
    exact_mod_cast Nat.log2_self_le hd.ne'
  have denUpper : (den : ℝ) < 2 ^ (den.log2 + 1 : ℤ) := by
    exact_mod_cast Nat.lt_log2_self (n := den)
  have lower : (2 : ℝ) ^ ((num.log2 : ℤ) - den.log2 - 1) ≤ num / den := by
    rw [le_div_iff₀ hd']
    calc (2 : ℝ) ^ ((num.log2 : ℤ) - den.log2 - 1) * den
      _ ≤ 2 ^ ((num.log2 : ℤ) - den.log2 - 1) * 2 ^ (den.log2 + 1 : ℤ) := by gcongr
      _ = 2 ^ (num.log2 : ℤ) := by rw [← zpow_add₀ two_ne_zero]; congr 1; ring
      _ ≤ num := numLower
  have upper : (num / den : ℝ) < 2 ^ ((num.log2 : ℤ) - den.log2 + 1) := by
    rw [div_lt_iff₀ hd']
    calc (num : ℝ) < 2 ^ (num.log2 + 1 : ℤ) := numUpper
      _ = 2 ^ ((num.log2 : ℤ) - den.log2 + 1) * 2 ^ (den.log2 : ℤ) := by
        rw [← zpow_add₀ two_ne_zero]; congr 1; ring
      _ ≤ 2 ^ ((num.log2 : ℤ) - den.log2 + 1) * den := by gcongr
  unfold BinaryFormat.floorLog2
  dsimp only
  split_ifs with less
  · rw [mul_pow_lt_mul_pow_iff hd] at less
    exact ⟨lower, by rwa [sub_add_cancel]⟩
  · rw [mul_pow_lt_mul_pow_iff hd] at less
    exact ⟨not_lt.mp less, upper⟩

theorem floorLog2_eq (hn : 0 < num) (hd : 0 < den) {k : ℤ} (lower : (2 : ℝ) ^ k ≤ num / den)
    (upper : (num / den : ℝ) < 2 ^ (k + 1)) : BinaryFormat.floorLog2 num den = k := by
  obtain ⟨lower', upper'⟩ := floorLog2_spec hn hd
  have less := (zpow_lt_zpow_iff_right₀ one_lt_two).mp (lower.trans_lt upper')
  have greater := (zpow_lt_zpow_iff_right₀ one_lt_two).mp (lower'.trans_lt upper)
  omega

/-- A ratio is rounded to the natural that is at most a half away, of two to the even one. -/
theorem roundHalfEven_eq (hd : 0 < den) {m : ℕ} (near : |(num / den : ℝ) - m| ≤ 1 / 2)
    (tie : |(num / den : ℝ) - m| = 1 / 2 → Even m) : roundHalfEven num den = m := by
  have hd' : (0 : ℝ) < den := by exact_mod_cast hd
  have parts : (num / den : ℝ) = (num / den : ℕ) + (num % den : ℕ) / den := by
    rw [div_eq_iff hd'.ne', add_mul, div_mul_cancel₀ _ hd'.ne']
    exact_mod_cast (Nat.div_add_mod' num den).symm
  have rest : ((num % den : ℕ) / den : ℝ) < 1 :=
    (div_lt_one hd').mpr (by exact_mod_cast Nat.mod_lt num hd)
  have nonneg : (0 : ℝ) ≤ (num % den : ℕ) / den := by positivity
  unfold roundHalfEven
  dsimp only
  rw [parts] at near tie
  generalize num / den = f at *
  -- The natural is the quotient or the next one.
  have cases : m = f ∨ m = f + 1 := by
    have above : (f : ℝ) < m + 1 := by linarith [(abs_le.mp near).2]
    have under : (m : ℝ) < f + 2 := by linarith [(abs_le.mp near).1]
    have above : f < m + 1 := by exact_mod_cast above
    have under : m < f + 2 := by exact_mod_cast under
    omega
  split_ifs with less more
  · have small : ((num % den : ℕ) / den : ℝ) < 1 / 2 := by
      rw [div_lt_iff₀ hd']
      have less : (2 : ℝ) * (num % den : ℕ) < den := by exact_mod_cast less
      linarith
    rcases cases with rfl | rfl
    · rfl
    · have := (abs_le.mp near).1
      push_cast at this
      linarith
  · have large : (1 / 2 : ℝ) < (num % den : ℕ) / den := by
      rw [lt_div_iff₀ hd']
      have more : (den : ℝ) < 2 * (num % den : ℕ) := by exact_mod_cast more
      linarith
    rcases cases with rfl | rfl
    · linarith [(abs_le.mp near).2]
    · rfl
  · have equal : ((num % den : ℕ) / den : ℝ) = 1 / 2 := by
      have same : (2 : ℝ) * (num % den : ℕ) = den := by
        exact_mod_cast Nat.le_antisymm (Nat.le_of_not_lt more) (Nat.le_of_not_lt less)
      rw [div_eq_iff hd'.ne']
      linarith
    have even : Even m := tie <| by
      rw [equal]
      rcases cases with rfl | rfl
      · norm_num
      · push_cast
        ring_nf
        norm_num
    rw [Nat.even_iff] at even
    omega

end Ratio

/-! ### Bits and their magnitude -/

namespace BinaryFormat

variable (f : BinaryFormat)

/-- The magnitude of bits that are made from a significand and an exponent. The significand
is full, unless the exponent is the least one. -/
theorem decode_eq {s k : ℕ} (short : s < 2 ^ (f.fractionBits + 1))
    (full : 2 ^ f.fractionBits ≤ s ∨ k = 0) : f.decode (k * 2 ^ f.fractionBits + s)
      = ⟨s, f.leastExponent + k, s == 2 ^ f.fractionBits && 0 < k⟩ := by
  obtain ⟨p, hp⟩ : ∃ p, p = 2 ^ f.fractionBits := ⟨_, rfl⟩
  have power : 0 < p := hp ▸ Nat.two_pow_pos _
  unfold decode
  dsimp only
  rw [Nat.pow_eq]
  rw [pow_succ] at short
  rw [← hp] at short full ⊢
  by_cases low : s < p
  · obtain rfl : k = 0 := full.resolve_left (by omega)
    rw [Nat.zero_mul, Nat.zero_add, Nat.div_eq_of_lt low, Nat.mod_eq_of_lt low, if_pos rfl]
    simp
  · have field : (k * p + s) / p = k + 1 := by
      rw [Nat.mul_comm, Nat.mul_add_div power, Nat.div_eq_of_lt_le (k := 1) (by omega) (by omega)]
    have fraction : (k * p + s) % p = s - p := by
      rw [Nat.mul_comm, Nat.mul_add_mod, Nat.mod_eq_sub_mod (by omega), Nat.mod_eq_of_lt (by omega)]
    have narrow : (s - p == 0 && decide (k + 1 > 1)) = (s == p && decide (0 < k)) := by
      rw [Bool.eq_iff_iff]
      simp only [Bool.and_eq_true, beq_iff_eq, decide_eq_true_eq]
      omega
    rw [field, fraction, if_neg (Nat.succ_ne_zero k), narrow, Nat.add_sub_of_le (by omega)]
    rfl

theorem exists_eq_mul_add (bits : ℕ) : ∃ s k, bits = k * 2 ^ f.fractionBits + s ∧
    s < 2 ^ (f.fractionBits + 1) ∧ (2 ^ f.fractionBits ≤ s ∨ k = 0) := by
  have power : 0 < 2 ^ f.fractionBits := Nat.two_pow_pos _
  have parts := Nat.div_add_mod' bits (2 ^ f.fractionBits)
  have rest := Nat.mod_lt bits power
  rw [pow_succ]
  generalize 2 ^ f.fractionBits = p at *
  rcases Nat.eq_zero_or_pos (bits / p) with zero | pos
  · exact ⟨bits, 0, by omega, by rw [zero] at parts; omega, .inr rfl⟩
  · refine ⟨p + bits % p, bits / p - 1, ?_, by omega, .inl (Nat.le_add_right ..)⟩
    obtain ⟨k, hk⟩ := Nat.exists_eq_add_of_lt pos
    rw [Nat.zero_add] at hk
    rw [hk] at parts ⊢
    rw [Nat.add_sub_cancel]
    linarith

variable {f} {num den : ℕ} {y : ℝ} {k : ℕ}

/-- The place that a ratio is rounded at, where the ratio has full length there. -/
theorem place_eq (hn : 0 < num) (hd : 0 < den)
    (ratio : (num / den : ℝ) = y * 2 ^ (f.leastExponent + k)) (short : y < 2 ^ (f.fractionBits + 1))
    (full : 2 ^ f.fractionBits ≤ y ∨ k = 0) :
    max (floorLog2 num den - f.fractionBits) f.leastExponent = f.leastExponent + k := by
  have above : (num / den : ℝ) < 2 ^ (f.leastExponent + k + f.fractionBits + 1) := by
    rw [add_assoc, zpow_add₀ two_ne_zero, mul_comm, ratio]
    gcongr
    exact_mod_cast short
  rcases full with full | rfl
  · have log : floorLog2 num den = f.leastExponent + k + f.fractionBits := by
      refine floorLog2_eq hn hd ?_ above
      rw [zpow_add₀ two_ne_zero, mul_comm, ratio]
      gcongr
      exact_mod_cast full
    omega
  · have log := (zpow_lt_zpow_iff_right₀ one_lt_two).mp ((floorLog2_spec hn hd).1.trans_lt above)
    omega

/-- A ratio is rounded to a nearest natural in units of its place. -/
theorem roundRatio_eq_min (hn : 0 < num) (hd : 0 < den)
    (ratio : (num / den : ℝ) = y * 2 ^ (f.leastExponent + k)) (short : y < 2 ^ (f.fractionBits + 1))
    (full : 2 ^ f.fractionBits ≤ y ∨ k = 0) {m : ℕ} (near : |y - m| ≤ 1 / 2)
    (tie : |y - m| = 1 / 2 → Even m) :
    f.roundRatio num den = min (k * 2 ^ f.fractionBits + m) f.infinity := by
  have units : ((num * Nat.pow 2 (-(f.leastExponent + k)).toNat : ℕ) : ℝ)
      / (den * Nat.pow 2 (f.leastExponent + k).toNat : ℕ) = y := by
    have unit : (0 : ℝ) < 2 ^ (f.leastExponent + k) := by positivity
    rw [← mul_div_cancel_right₀ y unit.ne', ← ratio, zpow_eq_div two_ne_zero, Nat.pow_eq,
      Nat.pow_eq]
    push_cast
    field_simp
  have rounded : roundHalfEven (num * Nat.pow 2 (-(f.leastExponent + k)).toNat)
      (den * Nat.pow 2 (f.leastExponent + k).toNat) = m := by
    have places : 0 < den * Nat.pow 2 (f.leastExponent + k).toNat :=
      Nat.mul_pos hd (Nat.pow_pos two_pos)
    refine roundHalfEven_eq places ?_ ?_
    · rwa [units]
    · rwa [units]
  unfold roundRatio
  dsimp only
  rw [if_neg hn.ne', place_eq hn hd ratio short full, rounded, Nat.pow_eq, add_sub_cancel_left,
    Int.toNat_natCast]

/-- Just below a power of two units are half as large, and a ratio there that is at most
half of such a unit away is rounded to the power. -/
theorem roundRatio_eq_power (hn : 0 < num) (hd : 0 < den)
    (ratio : (num / den : ℝ) = y * 2 ^ (f.leastExponent + (k + 1 : ℕ)))
    (near : 2 ^ f.fractionBits - 1 / 4 ≤ y) (below : y < 2 ^ f.fractionBits) :
    f.roundRatio num den = min ((k + 1) * 2 ^ f.fractionBits + 2 ^ f.fractionBits) f.infinity := by
  have one : (1 : ℝ) ≤ 2 ^ f.fractionBits := one_le_pow₀ one_le_two
  have halves : (num / den : ℝ) = 2 * y * 2 ^ (f.leastExponent + k) := by
    rw [ratio, Nat.cast_succ, ← add_assoc, zpow_add_one₀ two_ne_zero]
    ring
  have bits : k * 2 ^ f.fractionBits + 2 ^ (f.fractionBits + 1)
      = (k + 1) * 2 ^ f.fractionBits + 2 ^ f.fractionBits := by ring
  rw [roundRatio_eq_min hn hd halves (m := 2 ^ (f.fractionBits + 1)), bits]
  · rw [pow_succ]
    linarith
  · exact .inl (by linarith)
  · rw [pow_succ, abs_le]
    push_cast
    constructor <;> linarith
  · exact fun _ => Nat.even_pow.mpr ⟨even_two, Nat.succ_ne_zero _⟩

/-- **Rounding a ratio finds the magnitude around which it lies.** -/
theorem roundRatio_eq {bits : ℕ} (nonzero : bits ≠ 0) (below : bits < f.infinity)
    (hn : 0 < num) (hd : 0 < den) (around : (f.decode bits).Around (num / den)) :
    f.roundRatio num den = bits := by
  obtain ⟨s, k, rfl, short, full⟩ := f.exists_eq_mul_add bits
  have pos : 0 < s := by
    rcases full with full | rfl
    · exact (Nat.two_pow_pos _).trans_le full
    · omega
  have unit : (0 : ℝ) < 2 ^ (f.leastExponent + k) := by positivity
  obtain ⟨y, ratio⟩ : ∃ y : ℝ, (num / den : ℝ) = y * 2 ^ (f.leastExponent + k) :=
    ⟨_, (div_mul_cancel₀ _ unit.ne').symm⟩
  rw [f.decode_eq short full, ratio, Magnitude.around_iff pos] at around
  obtain ⟨lower, upper⟩ := around
  have reach := Magnitude.reach_le ⟨s, f.leastExponent + k, s == 2 ^ f.fractionBits && 0 < k⟩
  have short' : (s + 1 : ℝ) ≤ 2 ^ (f.fractionBits + 1) := by exact_mod_cast short
  have above : y < 2 ^ (f.fractionBits + 1) := by
    rcases upper with less | ⟨equal, -⟩ <;> linarith
  by_cases inside : 2 ^ f.fractionBits ≤ y ∨ k = 0
  · rw [roundRatio_eq_min hn hd ratio above inside (m := s), min_eq_left below.le]
    · rw [abs_le]
      constructor
      · rcases lower with less | ⟨equal, -⟩ <;> linarith
      · rcases upper with less | ⟨equal, -⟩ <;> linarith
    · intro equal
      rcases lower with less | ⟨-, even⟩
      · rcases upper with less' | ⟨-, even⟩
        · exact absurd equal (abs_lt.mpr ⟨by linarith, by linarith⟩).ne
        · exact even
      · exact even
  · -- The significand is a power of two, and the ratio lies below it.
    push Not at inside
    obtain ⟨inside, carried⟩ := inside
    obtain ⟨k, rfl⟩ := Nat.exists_eq_succ_of_ne_zero carried
    have power : s = 2 ^ f.fractionBits := by
      have less : (s : ℝ) < 2 ^ f.fractionBits + 1 := by
        rcases lower with less | ⟨equal, -⟩ <;> linarith
      have less : s < 2 ^ f.fractionBits + 1 := by exact_mod_cast less
      exact Nat.le_antisymm (Nat.lt_succ_iff.mp less) (full.resolve_right carried)
    have near : 2 ^ f.fractionBits - 1 / 4 ≤ y := by
      simp only [Magnitude.reach_eq, power, BEq.rfl, Nat.succ_eq_add_one, Nat.zero_lt_succ,
        decide_true, Bool.and_self, if_true] at lower
      push_cast at lower
      rcases lower with less | ⟨equal, -⟩ <;> linarith
    rw [power] at below ⊢
    rw [roundRatio_eq_power hn hd ratio near inside]
    exact min_eq_left below.le

end BinaryFormat

end DocSieve
