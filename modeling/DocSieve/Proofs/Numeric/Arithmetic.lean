import DocSieve.Proofs.Numeric.Packing
import DocSieve.Proofs.Numeric.Rounding

/-!
# Single-precision arithmetic

Sum, product, quotient and square root of finite numbers are the exact results,
rounded, as long as the exact result is below `2^127` in magnitude. For a product
the parts are multiplied; for a sum both significands are first brought to the
smaller exponent; quotient and root are computed to enough bits, with the place of
the rest (`locates_quotient`, `locates_root`). The results are numbers with
canonical parts, so they are written into bits and read back.

Key definitions: `Single.real`.
Key theorems: `Single.add_rounds`, `Single.mul_rounds`, `Single.div_rounds`,
`Single.sqrt_rounds`.
-/

namespace DocSieve

open Float.Model Float.Model.UnpackedFloat

/-! ### Signs -/

theorem signed_mul (s t : Sign) (a b : ℝ) : signed (s * t) (a * b) = signed s a * signed t b := by
  cases s <;> cases t
  · exact (neg_mul_neg a b).symm
  · exact (neg_mul a b).symm
  · exact (mul_neg a b).symm
  · rfl

theorem signed_div (s t : Sign) (a b : ℝ) : signed (s / t) (a / b) = signed s a / signed t b := by
  cases s <;> cases t
  · exact (neg_div_neg_eq a b).symm
  · exact (neg_div b a).symm
  · exact (div_neg a).symm
  · rfl

theorem apply_cast (s : Sign) (n : ℤ) : ((s.apply n : ℤ) : ℝ) = signed s n := by
  cases s
  · exact Int.cast_neg n
  · rfl

theorem signed_mul_right (s : Sign) (a b : ℝ) : signed s (a * b) = signed s a * b := by
  cases s
  · exact (neg_mul a b).symm
  · rfl

@[simp]
theorem abs_signed (s : Sign) (a : ℝ) : |signed s a| = |a| := by
  cases s
  · exact abs_neg a
  · rfl

@[simp]
theorem partsReal_zero (s : Sign) : partsReal (.zero s) = 0 := rfl

/-! ### Finite parts -/

theorem partsValue_eq_partsReal {y : UnpackedFloat} (finite : y.isFinite = true) :
    partsValue y = (partsReal y : EReal) := by
  rcases y with (_ | _) | _ | _ | ⟨_ | _, m, e, hm⟩ <;> first | rfl | cases finite

theorem isNaN_of_finite {y : UnpackedFloat} (finite : y.isFinite = true) : y.isNaN = false := by
  rcases y with (_ | _) | _ | _ | ⟨_ | _, m, e, hm⟩ <;> first | rfl | cases finite

/-! ### Results that need no rounding -/

/-- Canonical parts are those of their own value, rounded. -/
theorem rounded_self {y : UnpackedFloat} (finite : y.isFinite = true) (h : CanonicalParts y) :
    Rounded y (partsReal y) := by
  refine ⟨finite, h, ?_⟩
  cases y with
  | notANumber | infinity => cases finite
  | zero s =>
    refine ⟨-149, le_rfl, ?_, .inr rfl, ⟨0, by simp⟩, ?_⟩
    · simp only [partsReal_zero, abs_zero]
      positivity
    · simp only [partsReal_zero, sub_self, abs_zero]
      positivity
  | finite s m e hm =>
    have hpos := scaled_pos hm e
    have hlt : (m : ℝ) < 2 ^ 24 := by exact_mod_cast h.lt
    refine ⟨e, h.least, ?_, ?_, ⟨s.apply m, ?_⟩, ?_⟩
    · rw [partsReal, abs_signed, abs_of_pos hpos, zpow_add₀ (by norm_num), mul_comm]
      unfold scaled
      gcongr
      exact_mod_cast hlt
    · rw [partsReal, abs_signed, abs_of_pos hpos, zpow_add₀ (by norm_num), mul_comm]
      refine h.full.imp_left fun full => ?_
      have hle : (2 : ℝ) ^ 23 ≤ m := by exact_mod_cast full
      unfold scaled
      gcongr
      exact_mod_cast hle
    · rw [partsReal, apply_cast]
      exact signed_mul_right s m _
    · rw [sub_self, abs_zero]
      positivity

theorem rounded_zero (s : Sign) : Rounded (.zero s) 0 := rounded_self rfl trivial

/-! ### Products -/

/-- **The product of canonical finite parts is the exact product, rounded.** -/
theorem rounded_mul {a b : UnpackedFloat} (ha : CanonicalParts a) (hb : CanonicalParts b)
    (fa : a.isFinite = true) (fb : b.isFinite = true)
    (bounded : |partsReal a * partsReal b| < 2 ^ 127) :
    Rounded (UnpackedFloat.mul .binary32 a b) (partsReal a * partsReal b) := by
  cases a with
  | notANumber | infinity => cases fa
  | zero s =>
    rw [partsReal_zero, zero_mul]
    cases b with
    | notANumber | infinity => cases fb
    | zero t => exact rounded_zero _
    | finite t m' e' hm' => exact rounded_zero _
  | finite s m e hm =>
    cases b with
    | notANumber | infinity => cases fb
    | zero t =>
      rw [partsReal_zero, mul_zero]
      exact rounded_zero _
    | finite t m' e' hm' =>
      have exact : scaled m e * scaled m' e' = ((m * m' : ℕ) : ℝ) * 2 ^ (e + e') := by
        unfold scaled
        rw [zpow_add₀ (by norm_num)]
        push_cast
        ring
      have product : partsReal (.finite s m e hm) * partsReal (.finite t m' e' hm')
          = signed (s * t) (((m * m' : ℕ) : ℝ) * 2 ^ (e + e')) := by
        rw [← exact, signed_mul]
        rfl
      rw [product] at bounded ⊢
      rw [abs_signed] at bounded
      refine rounded_roundWithAccuracy (s * t) (sub_self _) ?_ ((le_abs_self _).trans_lt bounded)
      -- If neither significand is full, both exponents are the least.
      rcases ha.full with full | low
      · exact .inl (full.trans (Nat.le_mul_of_pos_right m hm'))
      rcases hb.full with full | low'
      · exact .inl (full.trans (Nat.le_mul_of_pos_left m' hm))
      · exact .inr (by omega)

/-! ### Sums -/

theorem shiftLeft_scaled (m k : ℕ) (e : ℤ) : scaled (m <<< k) (e - k) = scaled m e := by
  unfold scaled
  rw [Nat.shiftLeft_eq, zpow_sub₀ (by norm_num), zpow_natCast]
  push_cast
  field_simp

theorem rounded_round (s : Sign) {m : ℕ} (hm : 0 < m) {e : ℤ} (bounded : scaled m e < 2 ^ 127) :
    Rounded (UnpackedFloat.round .binary32 s m e) (signed s (scaled m e)) := by
  have same := shiftLeft_scaled m (e - lastPlace m e).toNat e
  rw [← same] at bounded ⊢
  refine rounded_roundWithAccuracy s (sub_self _) ?_ bounded
  by_cases low : e - (e - lastPlace m e).toNat ≤ -149
  · exact .inr low
  · -- The significand has at least 24 bits, or is filled up to that many.
    left
    rw [Nat.shiftLeft_eq]
    unfold lastPlace at *
    calc 2 ^ 23
      _ ≤ 2 ^ (m.log2 + (e - max ((m.log2 : ℤ) + 1 + e - 24) (-149)).toNat) :=
        Nat.pow_le_pow_right (by norm_num) (by omega)
      _ = 2 ^ m.log2 * 2 ^ (e - max ((m.log2 : ℤ) + 1 + e - 24) (-149)).toNat := pow_add _ _ _
      _ ≤ _ := Nat.mul_le_mul_right _ (Nat.log2_self_le hm.ne')

theorem rounded_normalize (n : ℤ) {e : ℤ} (zeroSign : Sign)
    (bounded : |(n : ℝ) * 2 ^ e| < 2 ^ 127) :
    Rounded (UnpackedFloat.normalize .binary32 n e zeroSign) (n * 2 ^ e) := by
  unfold UnpackedFloat.normalize
  rcases lt_trichotomy n 0 with negative | rfl | positive
  · obtain ⟨k, rfl⟩ := Int.exists_eq_neg_ofNat negative.le
    have value : ((-(k : ℤ) : ℤ) : ℝ) * 2 ^ e = signed .negative (scaled k e) := by
      unfold signed scaled
      push_cast
      ring
    rw [value] at bounded ⊢
    rw [abs_signed] at bounded
    rw [Int.compare_eq_lt.mpr negative]
    dsimp only
    rw [neg_neg, Int.toNat_natCast]
    exact rounded_round .negative (by omega) ((le_abs_self _).trans_lt bounded)
  · simpa using rounded_zero zeroSign
  · obtain ⟨k, rfl⟩ := Int.eq_ofNat_of_zero_le positive.le
    rw [Int.compare_eq_gt.mpr positive]
    dsimp only
    rw [Int.toNat_natCast]
    rw [Int.cast_natCast] at bounded ⊢
    exact rounded_round .positive (by omega) ((le_abs_self _).trans_lt bounded)

theorem apply_decreaseExponent (s : Sign) (m : ℕ) {e t : ℤ} (ht : t ≤ e) :
    ((s.apply (decreaseExponent m e t).1 : ℤ) : ℝ) * 2 ^ t = signed s (scaled m e) := by
  have hexp : e - (e - t).toNat = t := by omega
  have same := shiftLeft_scaled m (e - t).toNat e
  rw [hexp] at same
  rw [apply_cast, ← same]
  exact (signed_mul_right s _ _).symm

/-- **The sum of canonical finite parts is the exact sum, rounded.** -/
theorem rounded_add {a b : UnpackedFloat} (ha : CanonicalParts a) (hb : CanonicalParts b)
    (fa : a.isFinite = true) (fb : b.isFinite = true)
    (bounded : |partsReal a + partsReal b| < 2 ^ 127) :
    Rounded (UnpackedFloat.add .binary32 a b) (partsReal a + partsReal b) := by
  cases a with
  | notANumber | infinity => cases fa
  | zero s =>
    rw [partsReal_zero, zero_add]
    cases b with
    | notANumber | infinity => cases fb
    | zero t => cases s <;> cases t <;> exact rounded_zero _
    | finite t m' e' hm' => exact rounded_self rfl hb
  | finite s m e hm =>
    cases b with
    | notANumber | infinity => cases fb
    | zero t =>
      rw [partsReal_zero, add_zero]
      exact rounded_self rfl ha
    | finite t m' e' hm' =>
      have sum : partsReal (.finite s m e hm) + partsReal (.finite t m' e' hm')
          = ((s.apply (decreaseExponent m e (min e e')).1
            + t.apply (decreaseExponent m' e' (min e e')).1 : ℤ) : ℝ) * 2 ^ min e e' := by
        push_cast
        rw [add_mul, apply_decreaseExponent s m (min_le_left e e'),
          apply_decreaseExponent t m' (min_le_right e e')]
        rfl
      rw [sum] at bounded ⊢
      exact rounded_normalize _ .positive bounded

/-! ### Quotients -/

/-- The rest of a division is located by comparing twice the rest with the divisor. -/
theorem locates_quotient (m : ℕ) {d : ℕ} (hd : 0 < d) :
    Locates (accuracyOfFraction (m % d) d) ((m : ℝ) / d - (m / d : ℕ)) := by
  have hd' : (0 : ℝ) < d := by exact_mod_cast hd
  have fraction : (m : ℝ) / d - (m / d : ℕ) = (m % d : ℕ) / d := by
    have parts : (m : ℝ) = d * (m / d : ℕ) + (m % d : ℕ) := by
      exact_mod_cast (Nat.div_add_mod m d).symm
    rw [eq_div_iff hd'.ne', sub_mul, div_mul_cancel₀ _ hd'.ne']
    linarith
  have rest : ((m % d : ℕ) : ℝ) < d := by exact_mod_cast Nat.mod_lt m hd
  rw [fraction]
  generalize m % d = r at *
  unfold accuracyOfFraction
  by_cases zero : r = 0
  · simp [zero, Locates]
  have pos : (0 : ℝ) < r := by exact_mod_cast Nat.pos_of_ne_zero zero
  rw [if_neg zero]
  rcases lt_trichotomy (2 * r) d with less | equal | more
  · rw [Nat.compare_eq_lt.mpr less]
    have less : (2 : ℝ) * r < d := by exact_mod_cast less
    refine ⟨by positivity, ?_⟩
    rw [← add_div, div_lt_one hd']
    linarith
  · rw [Nat.compare_eq_eq.mpr equal]
    have equal : (2 : ℝ) * r = d := by exact_mod_cast equal
    change (r : ℝ) / d + r / d = 1
    rw [← add_div, div_eq_one_iff_eq hd'.ne']
    linarith
  · rw [Nat.compare_eq_gt.mpr more]
    have more : (d : ℝ) < 2 * r := by exact_mod_cast more
    constructor
    · rw [← add_div, one_lt_div hd']
      linarith
    · rw [div_lt_one hd']
      exact rest

/-- The exponent of a quotient that is computed to enough bits. -/
def quotientPlace (m : ℕ) (e : ℤ) (m' : ℕ) (e' : ℤ) : ℤ :=
  min (e - e') (max ((m.log2 + 1 + e) - (m'.log2 + 1 + e') - 24) (-149))

/-- The quotient is computed to 24 bits, or down to the least exponent. -/
theorem enough_quotient {m m' : ℕ} (hm : 0 < m) (hm' : 0 < m') (e e' : ℤ) :
    2 ^ 23 ≤ (m <<< (e - e' - quotientPlace m e m' e').toNat) / m' ∨
      quotientPlace m e m' e' ≤ -149 := by
  by_cases low : quotientPlace m e m' e' ≤ -149
  · exact .inr low
  left
  rw [Nat.le_div_iff_mul_le hm', Nat.shiftLeft_eq]
  unfold quotientPlace at *
  calc 2 ^ 23 * m'
    _ ≤ 2 ^ 23 * 2 ^ (m'.log2 + 1) := Nat.mul_le_mul_left _ Nat.lt_log2_self.le
    _ = 2 ^ (23 + (m'.log2 + 1)) := (pow_add _ _ _).symm
    _ ≤ 2 ^ (m.log2 + _) := Nat.pow_le_pow_right (by norm_num) (by omega)
    _ = 2 ^ m.log2 * 2 ^ _ := pow_add _ _ _
    _ ≤ _ := Nat.mul_le_mul_right _ (Nat.log2_self_le hm.ne')

/-- **The quotient of canonical finite parts is the exact quotient, rounded**, where
the divisor is not zero. -/
theorem rounded_div {a b : UnpackedFloat} (fa : a.isFinite = true) (fb : b.isFinite = true)
    (nonzero : partsReal b ≠ 0) (bounded : |partsReal a / partsReal b| < 2 ^ 127) :
    Rounded (UnpackedFloat.div .binary32 a b) (partsReal a / partsReal b) := by
  cases b with
  | notANumber | infinity => cases fb
  | zero t => exact absurd rfl nonzero
  | finite t m' e' hm' =>
    cases a with
    | notANumber | infinity => cases fa
    | zero s =>
      rw [partsReal_zero, zero_div]
      exact rounded_zero _
    | finite s m e hm =>
      generalize hplace : quotientPlace m e m' e' = T
      have hT : T ≤ e - e' := hplace ▸ min_le_left _ _
      have hexp : e - (e - e' - T).toNat = T + e' := by omega
      have quotient : scaled m e / scaled m' e'
          = ((m <<< (e - e' - T).toNat : ℕ) : ℝ) / m' * 2 ^ T := by
        have hm'' : (m' : ℝ) ≠ 0 := by exact_mod_cast hm'.ne'
        rw [← shiftLeft_scaled m (e - e' - T).toNat e, hexp]
        unfold scaled
        rw [zpow_add₀ (by norm_num)]
        field_simp
      have value : partsReal (.finite s m e hm) / partsReal (.finite t m' e' hm')
          = signed (s / t) (((m <<< (e - e' - T).toNat : ℕ) : ℝ) / m' * 2 ^ T) := by
        rw [← quotient, signed_div]
        rfl
      have computed : UnpackedFloat.div .binary32 (.finite s m e hm) (.finite t m' e' hm')
          = roundWithAccuracy .binary32 (s / t) ((m <<< (e - e' - T).toNat) / m') T
              (accuracyOfFraction ((m <<< (e - e' - T).toNat) % m') m') := by
        rw [← hplace]
        rfl
      rw [value] at bounded ⊢
      rw [abs_signed] at bounded
      rw [computed]
      refine rounded_roundWithAccuracy (s / t) (locates_quotient _ hm') ?_
        ((le_abs_self _).trans_lt bounded)
      rw [← hplace]
      exact enough_quotient hm hm' e e'

/-! ### Square roots -/

/-- The place of a square root above its integral part, told by the rest. -/
def rootAccuracy (n : ℕ) : Accuracy :=
  if n - n.sqrt * n.sqrt = 0 then .exact
  else .inexact (if n - n.sqrt * n.sqrt ≤ n.sqrt then .lt else .gt)

/-- The rest of a square root is located by comparing it with the root. -/
theorem locates_root (n : ℕ) : Locates (rootAccuracy n) (√(n : ℝ) - n.sqrt) := by
  unfold rootAccuracy
  have square : (n.sqrt : ℝ) * n.sqrt + (n - n.sqrt * n.sqrt : ℕ) = n := by
    exact_mod_cast Nat.add_sub_of_le (Nat.sqrt_le n)
  have next : √(n : ℝ) < n.sqrt + 1 := Real.real_sqrt_lt_nat_sqrt_succ
  generalize n - n.sqrt * n.sqrt = rest at *
  generalize n.sqrt = root at *
  have nonneg : (0 : ℝ) ≤ root := by positivity
  by_cases zero : rest = 0
  · have perfect : √(n : ℝ) = root := by
      rw [← square, zero, Nat.cast_zero, add_zero, Real.sqrt_mul_self nonneg]
    rw [if_pos zero, perfect]
    exact sub_self _
  rw [if_neg zero]
  by_cases small : rest ≤ root
  · have pos : (0 : ℝ) < rest := by exact_mod_cast Nat.pos_of_ne_zero zero
    have small' : (rest : ℝ) ≤ root := by exact_mod_cast small
    have lower : root < √(n : ℝ) := (Real.lt_sqrt nonneg).mpr (by linarith)
    have upper : √(n : ℝ) < root + 1 / 2 := (Real.sqrt_lt' (by linarith)).mpr (by linarith)
    rw [if_pos small]
    constructor <;> linarith
  · -- The root is never half-way, so the rest is at least the root and one.
    have large : (root : ℝ) + 1 ≤ rest := by exact_mod_cast Nat.lt_of_not_le small
    have lower : root + 1 / 2 < √(n : ℝ) := (Real.lt_sqrt (by linarith)).mpr (by linarith)
    rw [if_neg small]
    constructor <;> linarith

/-- The exponent of a square root that is computed to enough bits. -/
def rootPlace (m : ℕ) (e : ℤ) : ℤ := min (e / 2) (max ((m.log2 + 1 + e + 1) / 2 - 24) (-149))

/-- The root is computed to 24 bits, or down to the least exponent. -/
theorem enough_root {m : ℕ} (hm : 0 < m) (e : ℤ) :
    2 ^ 23 ≤ (m <<< (e - 2 * rootPlace m e).toNat).sqrt ∨ rootPlace m e ≤ -149 := by
  by_cases low : rootPlace m e ≤ -149
  · exact .inr low
  left
  rw [Nat.le_sqrt, Nat.shiftLeft_eq]
  unfold rootPlace at *
  calc 2 ^ 23 * 2 ^ 23
    _ = 2 ^ 46 := by norm_num
    _ ≤ 2 ^ (m.log2 + _) := Nat.pow_le_pow_right (by norm_num) (by omega)
    _ = 2 ^ m.log2 * 2 ^ _ := pow_add _ _ _
    _ ≤ _ := Nat.mul_le_mul_right _ (Nat.log2_self_le hm.ne')

/-- **The square root of canonical finite parts is the exact root, rounded.** -/
theorem rounded_sqrt {a : UnpackedFloat} (ha : CanonicalParts a) (fa : a.isFinite = true)
    (nonneg : 0 ≤ partsReal a) :
    Rounded (UnpackedFloat.sqrt .binary32 a) √(partsReal a) := by
  cases a with
  | notANumber | infinity => cases fa
  | zero s =>
    rw [partsReal_zero, Real.sqrt_zero]
    exact rounded_zero s
  | finite s m e hm =>
    cases s with
    | negative => exact absurd nonneg (neg_neg_of_pos (scaled_pos hm e)).not_ge
    | positive =>
      generalize hplace : rootPlace m e = T
      have hT : T ≤ e / 2 := hplace ▸ min_le_left _ _
      have hexp : e - (e - 2 * T).toNat = T + T := by omega
      have root : √(scaled m e) = √((m <<< (e - 2 * T).toNat : ℕ) : ℝ) * 2 ^ T := by
        have hpos : (0 : ℝ) ≤ 2 ^ T := by positivity
        rw [← shiftLeft_scaled m (e - 2 * T).toNat e, hexp, scaled, zpow_add₀ (by norm_num),
          Real.sqrt_mul (by positivity), Real.sqrt_mul_self hpos]
      have bounded : √(scaled m e) < 2 ^ 127 := by
        have hlt : (m : ℝ) < 2 ^ 24 := by exact_mod_cast ha.lt
        have hpow : (2 : ℝ) ^ e ≤ 2 ^ (104 : ℤ) := zpow_le_zpow_right₀ (by norm_num) ha.greatest
        refine (Real.sqrt_lt' (by norm_num)).mpr ?_
        calc scaled m e
          _ = m * 2 ^ e := rfl
          _ ≤ 2 ^ 24 * 2 ^ (104 : ℤ) := by gcongr
          _ < (2 ^ 127) ^ 2 := by norm_num
      have computed : UnpackedFloat.sqrt .binary32 (.finite .positive m e hm)
          = roundWithAccuracy .binary32 .positive (m <<< (e - 2 * T).toNat).sqrt T
              (rootAccuracy (m <<< (e - 2 * T).toNat)) := by
        rw [← hplace]
        rfl
      change Rounded _ √(scaled m e)
      rw [root] at bounded ⊢
      rw [computed]
      refine rounded_roundWithAccuracy .positive (locates_root _) ?_ bounded
      rw [← hplace]
      exact enough_root hm e

/-! ### Numbers -/

namespace Single

/-- The real number that a finite number stands for. -/
noncomputable def real (x : Float32) : ℝ := partsReal x.toModel.unpack

theorem value_eq_real {x : Float32} (finite : x.isFinite = true) : value x = (real x : EReal) :=
  partsValue_eq_partsReal finite

theorem isNaN_of_isFinite {x : Float32} (finite : x.isFinite = true) : x.isNaN = false :=
  isNaN_of_finite finite

theorem real_zero : real 0.0 = 0 := rfl

theorem real_neg_zero : real (-0.0) = 0 := rfl

theorem lt_iff_real {x y : Float32} (fx : x.isFinite = true) (fy : y.isFinite = true) :
    x < y ↔ real x < real y := by
  rw [lt_iff, value_eq_real fx, value_eq_real fy, EReal.coe_lt_coe_iff,
    and_iff_right (isNaN_of_isFinite fx), and_iff_right (isNaN_of_isFinite fy)]

theorem beq_zero_iff {x : Float32} (fx : x.isFinite = true) : (x == 0.0) = true ↔ real x = 0 := by
  have heq : (x == 0.0) = (x.toModel.unpack.compare (0.0 : Float32).toModel.unpack == some .eq) :=
    rfl
  rw [heq, compare_eq (isNaN_of_isFinite fx) rfl, value_eq_real fx, value_eq_real rfl, real_zero]
  simp [cmp_eq_eq_iff]

theorem bne_zero_iff {x : Float32} (fx : x.isFinite = true) : (x != 0.0) = true ↔ real x ≠ 0 := by
  rw [bne, Bool.not_eq_true', ← Bool.not_eq_true, beq_zero_iff fx]

theorem exists_real_eq {x : Float32} (fx : x.isFinite = true) :
    ∃ m k : ℤ, |m| < 2 ^ 24 ∧ -149 ≤ k ∧ real x = m * 2 ^ k := by
  have canonical := canonicalParts_unpack x.toModel
  change x.toModel.unpack.isFinite = true at fx
  unfold real
  cases parts : x.toModel.unpack with
  | notANumber | infinity => rw [parts] at fx; cases fx
  | zero s => exact ⟨0, 0, by norm_num, by norm_num, by simp⟩
  | finite s m e hm =>
    rw [parts] at canonical
    refine ⟨s.apply m, e, ?_, canonical.least, ?_⟩
    · have hlt := canonical.lt
      cases s
      · change |(-m : ℤ)| < 2 ^ 24
        rw [abs_neg, Nat.abs_cast]
        exact_mod_cast hlt
      · change |(m : ℤ)| < 2 ^ 24
        rw [Nat.abs_cast]
        exact_mod_cast hlt
    · rw [apply_cast]
      exact signed_mul_right s m _

theorem least_le {x : Float32} (fx : x.isFinite = true) (pos : 0 < real x) :
    2 ^ (-149 : ℤ) ≤ real x := by
  obtain ⟨m, k, -, hk, value⟩ := exists_real_eq fx
  rw [value] at pos ⊢
  have hm : 0 < (m : ℝ) := pos_of_mul_pos_left pos (by positivity)
  have hm : (1 : ℝ) ≤ m := by exact_mod_cast (by exact_mod_cast hm : 0 < m)
  calc (2 : ℝ) ^ (-149 : ℤ) ≤ 2 ^ k := zpow_le_zpow_right₀ (by norm_num) hk
    _ ≤ m * 2 ^ k := le_mul_of_one_le_left (by positivity) hm

/-- `x` is finite and its value is `r`, rounded. -/
def Approximates (x : Float32) (r : ℝ) : Prop := x.isFinite = true ∧ Rounds r (real x)

theorem Approximates.exact {x y : Float32} {r : ℝ} (h : Approximates x r)
    (fy : y.isFinite = true) (eq : r = real y) : real x = r := by
  obtain ⟨m, k, hm, hk, value⟩ := exists_real_eq fy
  exact h.2.exact hm hk (eq.trans value)

theorem approximates_of_rounded {y : UnpackedFloat} {r : ℝ} (h : Rounded y r) :
    Approximates (.ofModel (.pack y)) r := by
  unfold Approximates real
  change (Float32.Model.pack y).unpack.isFinite = true ∧
    Rounds r (partsReal (Float32.Model.pack y).unpack)
  rw [unpack_pack h.canonical]
  exact ⟨h.finite, h.rounds⟩

variable {x y : Float32}

theorem add_rounds (fx : x.isFinite = true) (fy : y.isFinite = true)
    (bounded : |real x + real y| < 2 ^ 127) : Approximates (x + y) (real x + real y) :=
  approximates_of_rounded
    (rounded_add (canonicalParts_unpack _) (canonicalParts_unpack _) fx fy bounded)

theorem mul_rounds (fx : x.isFinite = true) (fy : y.isFinite = true)
    (bounded : |real x * real y| < 2 ^ 127) : Approximates (x * y) (real x * real y) :=
  approximates_of_rounded
    (rounded_mul (canonicalParts_unpack _) (canonicalParts_unpack _) fx fy bounded)

theorem div_rounds (fx : x.isFinite = true) (fy : y.isFinite = true) (nonzero : real y ≠ 0)
    (bounded : |real x / real y| < 2 ^ 127) : Approximates (x / y) (real x / real y) :=
  approximates_of_rounded (rounded_div fx fy nonzero bounded)

theorem sqrt_rounds (fx : x.isFinite = true) (nonneg : 0 ≤ real x) :
    Approximates x.sqrt √(real x) :=
  approximates_of_rounded (rounded_sqrt (canonicalParts_unpack _) fx nonneg)

end Single

end DocSieve
