import DocSieve.Proofs.Numeric.Double
import DocSieve.Proofs.Numeric.Separation

/-!
# Digits times a power of ten

The reader makes a number from at most 53 bits of digits and a small power of ten. Only
the power and the final product or quotient are rounded, so the number is close to the
decimal, in the sense that separates decimals from binary numbers. It equals the decimal
where the decimal is a binary number of 25 bits: then the power has at most 22 fives in
it, and is exact.

Key definitions: `Double.Reads`.
Key theorems: `scaleByTen_reads`.
-/

namespace DocSieve

open BinaryFormat

namespace Double

variable {x : Float} {r : ℝ}

/-! ### Naturals and powers of ten -/

theorem approximates_naturalToDouble {n : ℕ} (pos : 0 < n) (short : n < 2 ^ 53) :
    Approximates (naturalToDouble n) n ∧ real (naturalToDouble n) = n := by
  have one : (1 : ℝ) ≤ n := by exact_mod_cast pos
  have most : (n : ℝ) < 2 ^ (53 : ℤ) := by exact_mod_cast short
  have midRange : MidRange (n / (1 : ℕ)) := by
    rw [Nat.cast_one, div_one]
    refine ⟨one.trans' ?_, most.trans_le (zpow_le_zpow_right₀ one_le_two (by norm_num))⟩
    exact zpow_le_one_of_nonpos₀ one_le_two (by norm_num)
  have h := approximates_roundRatio pos one_pos midRange
  rw [Nat.cast_one, div_one] at h
  exact ⟨h, h.exact (n := n) (k := 0) short (by simp)⟩

theorem roundDecimal_one {k : ℕ} (small : k ≤ 53) :
    double.roundDecimal 1 k = double.roundRatio (1 * 10 ^ k) (10 ^ 0) := by
  have log : Nat.log2 1 = 0 := by decide
  unfold roundDecimal
  rw [if_neg one_ne_zero, if_neg (by omega), if_neg (by omega), Int.toNat_natCast,
    Int.toNat_neg_natCast]
  rfl

/-- A small power of ten is nearest to the exact one, and equal to it up to the 22nd. -/
theorem approximates_powerOfTen {k : ℕ} (small : k ≤ 53) :
    Approximates (powerOfTen k) (10 ^ k) ∧ (k ≤ 22 → real (powerOfTen k) = 10 ^ k) := by
  have value : ((1 * 10 ^ k : ℕ) / (10 ^ 0 : ℕ) : ℝ) = 10 ^ k := by
    push_cast
    ring
  have midRange : MidRange (10 ^ k) := by
    refine ⟨(one_le_pow₀ (by norm_num)).trans' (by norm_num), ?_⟩
    exact (pow_le_pow_right₀ (by norm_num) small).trans_lt (by norm_num)
  have h := approximates_roundRatio (Nat.mul_pos one_pos (Nat.pow_pos (by norm_num)))
    (Nat.pow_pos (by norm_num)) (value ▸ midRange)
  rw [value, ← roundDecimal_one small] at h
  refine ⟨h, fun few => h.exact (n := 5 ^ k) (k := k) ?_ ?_⟩
  · exact (Nat.pow_le_pow_right (by norm_num) few).trans_lt (by norm_num)
  · rw [zpow_natCast, Nat.cast_pow, ← mul_pow]
    norm_num

/-! ### Errors -/

/-- A number read for a decimal number: close to it, and equal to it where 25 bits are
enough for it. -/
structure Reads (x : Float) (v : ℝ) : Prop where
  approximates : ∃ r, Approximates x r
  close : Close v (real x)
  exact : ∀ (m : ℕ) (s : ℤ), m < 2 ^ 25 → v = m * 2 ^ s → real x = v

/-- Two roundings stay close: that of the power of ten, and that of the result. -/
theorem close_of_near {v w y : ℝ} (power : |w - v| * (2 ^ 53 - 1) ≤ v)
    (result : |y - w| ≤ w / 2 ^ 53) : Close v y := by
  have total : |v - y| ≤ |w - v| + |y - w| := by
    rw [abs_sub_comm w, abs_sub_comm y]
    exact abs_sub_le v w y
  have most := (abs_le.mp (le_refl |w - v|)).2
  have nonneg : 0 ≤ v := (mul_nonneg (abs_nonneg _) (by norm_num)).trans power
  exact ⟨by linarith⟩

/-- A decimal that is a binary number has all fives of its power of ten in its digits. -/
theorem five_pow_le {n m : ℕ} {shift s : ℤ} (pos : 0 < n)
    (same : (n * 10 ^ shift : ℝ) = m * 2 ^ s) :
    5 ^ shift.toNat ≤ m ∧ 5 ^ (-shift).toNat ≤ n := by
  have cross : n * 10 ^ shift.toNat * 2 ^ (-s).toNat
      = m * 2 ^ s.toNat * 10 ^ (-shift).toNat := by
    rw [zpow_eq_div (by norm_num), zpow_eq_div two_ne_zero, mul_div_assoc', mul_div_assoc',
      div_eq_div_iff (by positivity) (by positivity)] at same
    exact_mod_cast same
  have pos' : 0 < m := by
    refine Nat.pos_of_ne_zero fun zero => ?_
    rw [zero, zero_mul, zero_mul] at cross
    exact absurd cross (by positivity)
  have five (a : ℕ) : 5 ^ a ∣ 10 ^ a := pow_dvd_pow_of_dvd (by norm_num) a
  have coprime (a b : ℕ) : (5 ^ a).Coprime (2 ^ b) := Nat.Coprime.pow a b (by norm_num)
  rcases le_total 0 shift with nonneg | nonpos
  · rw [Int.toNat_of_nonpos (neg_nonpos.mpr nonneg), pow_zero, mul_one] at cross
    rw [Int.toNat_of_nonpos (neg_nonpos.mpr nonneg)]
    refine ⟨Nat.le_of_dvd pos' ((coprime _ s.toNat).dvd_of_dvd_mul_right ?_), pos⟩
    exact cross ▸ Dvd.dvd.mul_right (Dvd.dvd.mul_left (five _) n) _
  · rw [Int.toNat_of_nonpos nonpos, pow_zero, mul_one] at cross
    rw [Int.toNat_of_nonpos nonpos]
    refine ⟨pos', Nat.le_of_dvd pos ((coprime _ (-s).toNat).dvd_of_dvd_mul_right ?_)⟩
    exact cross ▸ Dvd.dvd.mul_left (five _) _

section Factors

variable {n : ℕ} {q : Float} {p : ℝ}

/-- The factors of a decimal: digits of at most 53 bits, and the number for a power of ten. -/
structure Factors (x : Float) (n : ℕ) (q : Float) (p : ℝ) : Prop where
  digits : Approximates x n
  value : real x = n
  pos : 0 < n
  short : n < 2 ^ 53
  power : Approximates q p
  one_le : 1 ≤ p
  small : p ≤ 10 ^ 53

theorem Factors.bounds (h : Factors x n q p) : p / 2 ≤ real q ∧ real q ≤ 2 * 10 ^ 53 := by
  obtain ⟨under, above⟩ := abs_le.mp h.power.near
  have one := h.one_le
  have small := h.small
  constructor <;> linarith

theorem Factors.reads_mul (h : Factors x n q p)
    (exact : ∀ (m : ℕ) (s : ℤ), m < 2 ^ 25 → n * p = m * 2 ^ s → real q = p) :
    Reads (x * q) (n * p) := by
  have one : (1 : ℝ) ≤ n := by exact_mod_cast h.pos
  have most : (n : ℝ) < 2 ^ 53 := by exact_mod_cast h.short
  have p_pos : 0 < p := one_pos.trans_le h.one_le
  obtain ⟨least, greatest⟩ := h.bounds
  have q_pos : 0 < real q := h.power.pos
  have midRange : MidRange (real x * real q) := by
    rw [h.value]
    constructor
    · calc (2 : ℝ) ^ (-250 : ℤ) ≤ 1 * (1 / 2) := by norm_num
        _ ≤ n * real q := by
          gcongr
          linarith [h.one_le]
    · calc n * real q ≤ 2 ^ 53 * (2 * 10 ^ 53) := by gcongr
        _ < 2 ^ (250 : ℤ) := by norm_num
  have product := approximates_mul h.digits h.power midRange
  rw [h.value] at product
  refine ⟨⟨_, product⟩, close_of_near ?_ product.near, fun m s hm same => ?_⟩
  · have bound : n * |real q - p| ≤ n * (p / 2 ^ 53) := by
      gcongr
      exact h.power.near
    have pos : 0 ≤ n * p := by positivity
    rw [← mul_sub, abs_mul, Nat.abs_cast]
    linarith
  · rw [exact m s hm same] at product
    exact product.exact (hm.trans (by norm_num)) same

theorem Factors.reads_div (h : Factors x n q p)
    (exact : ∀ (m : ℕ) (s : ℤ), m < 2 ^ 25 → n / p = m * 2 ^ s → real q = p) :
    Reads (x / q) (n / p) := by
  have one : (1 : ℝ) ≤ n := by exact_mod_cast h.pos
  have most : (n : ℝ) < 2 ^ 53 := by exact_mod_cast h.short
  have p_pos : 0 < p := one_pos.trans_le h.one_le
  obtain ⟨least, greatest⟩ := h.bounds
  have q_pos : 0 < real q := h.power.pos
  have midRange : MidRange (real x / real q) := by
    rw [h.value]
    constructor
    · calc (2 : ℝ) ^ (-250 : ℤ) ≤ 1 / (2 * 10 ^ 53) := by norm_num
        _ ≤ n / real q := by gcongr
    · calc n / real q ≤ 2 ^ 53 / (1 / 2) := by
            gcongr
            linarith [h.one_le]
        _ < 2 ^ (250 : ℤ) := by norm_num
  have quotient := approximates_div h.digits h.power midRange
  rw [h.value] at quotient
  refine ⟨⟨_, quotient⟩, close_of_near ?_ quotient.near, fun m s hm same => ?_⟩
  · have apart : (n / real q - n / p : ℝ) = n / p * ((p - real q) / real q) := by field_simp
    have part : |p - real q| / real q * (2 ^ 53 - 1) ≤ 1 := by
      rw [div_mul_eq_mul_div, div_le_one q_pos, abs_sub_comm]
      linarith [h.power.near, (abs_le.mp h.power.near).1]
    rw [apart, abs_mul, abs_of_nonneg (by positivity), abs_div, abs_of_pos q_pos, mul_assoc]
    exact mul_le_of_le_one_right (by positivity) part
  · rw [exact m s hm same] at quotient
    exact quotient.exact (hm.trans (by norm_num)) same

end Factors

/-! ### The reader's product or quotient -/

theorem real_powerOfTen_of_eq {n m : ℕ} {shift s : ℤ} (pos : 0 < n) (short : n < 2 ^ 53)
    (small : shift.natAbs ≤ 53) (hm : m < 2 ^ 25) (same : (n * 10 ^ shift : ℝ) = m * 2 ^ s) :
    real (powerOfTen shift.natAbs) = 10 ^ shift.natAbs := by
  obtain ⟨hm', hn'⟩ := five_pow_le pos same
  refine (approximates_powerOfTen small).2 ?_
  by_contra many
  have bound : 5 ^ 23 ≤ 5 ^ shift.natAbs := Nat.pow_le_pow_right (by norm_num) (by omega)
  rcases le_total 0 shift with nonneg | nonpos
  · rw [show shift.toNat = shift.natAbs by omega] at hm'
    omega
  · rw [show (-shift).toNat = shift.natAbs by omega] at hn'
    omega

/-- **Digits times a small power of ten are read.** -/
theorem scaleByTen_reads {n : ℕ} {shift : ℤ} (pos : 0 < n) (short : n < 2 ^ 53)
    (small : shift.natAbs ≤ 53) :
    ∃ y, scaleByTen (naturalToDouble n) shift = some y ∧ Reads y (n * 10 ^ shift) := by
  obtain ⟨digits, value⟩ := approximates_naturalToDouble pos short
  have factors : Factors (naturalToDouble n) n (powerOfTen shift.natAbs) (10 ^ shift.natAbs) :=
    ⟨digits, value, pos, short, (approximates_powerOfTen small).1, one_le_pow₀ (by norm_num),
      pow_le_pow_right₀ (by norm_num) small⟩
  have exact (m : ℕ) (s : ℤ) (hm : m < 2 ^ 25) (same : (n * 10 ^ shift : ℝ) = m * 2 ^ s) :=
    real_powerOfTen_of_eq pos short small hm same
  unfold scaleByTen
  rw [if_pos (small.trans (by decide))]
  by_cases nonneg : 0 ≤ shift
  · have scale : (10 : ℝ) ^ shift = 10 ^ shift.natAbs := by
      rw [← zpow_natCast, Int.natAbs_of_nonneg nonneg]
    rw [scale] at exact ⊢
    have reads := factors.reads_mul exact
    obtain ⟨r, product⟩ := reads.approximates
    rw [if_pos nonneg]
    dsimp only
    rw [product.isInf, if_neg Bool.false_ne_true]
    exact ⟨_, rfl, reads⟩
  · have scale : (n * 10 ^ shift : ℝ) = n / 10 ^ shift.natAbs := by
      rw [div_eq_mul_inv, ← zpow_natCast, ← zpow_neg]
      congr 2
      omega
    rw [scale] at exact ⊢
    rw [if_neg nonneg]
    exact ⟨_, rfl, factors.reads_div exact⟩

end Double

end DocSieve
