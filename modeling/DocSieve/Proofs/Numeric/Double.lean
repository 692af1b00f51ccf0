import DocSieve.Proofs.Json.Number
import DocSieve.Proofs.Numeric.Arithmetic
import DocSieve.Proofs.Numeric.Nearest

/-!
# Double-precision numbers in the middle of the range

Far from the ends of the range a positive double-precision number has a significand of
53 bits. A product, a quotient and a rounded ratio differ there from the exact result by
at most one part in `2^53`, and not at all where 53 bits are enough for the result
(`Nearest`). Two ways lead to such a number, the rounding of the parts that an operation
computes and the rounding of a ratio of naturals; both come down to a natural that is at
most a half away from the result in units of its last place (`nearest_carry`).

Key definitions: `Full`, `Nearest`, `MidRange`, `Double.Approximates`.
Key theorems: `Double.approximates_mul`, `Double.approximates_div`,
`Double.approximates_roundRatio`, `Double.Approximates.narrow`.
-/

namespace DocSieve

open Float.Model Float.Model.UnpackedFloat BinaryFormat

/-! ### Full significands -/

/-- The parts of a number whose significand has 53 bits. -/
structure Full (m : ℕ) (e : ℤ) : Prop where
  full : 2 ^ 52 ≤ m
  lt : m < 2 ^ 53
  least : -1074 ≤ e
  greatest : e ≤ 971

/-- Full parts whose number is nearest to a positive real number. -/
structure Nearest (m : ℕ) (e : ℤ) (r : ℝ) : Prop extends Full m e where
  near : |scaled m e - r| ≤ r / 2 ^ 53
  /-- A number for which 53 bits are enough is not changed. -/
  exact : ∀ (n : ℕ) (k : ℤ), n < 2 ^ 53 → r = n * 2 ^ k → scaled m e = r

theorem Full.pos {m : ℕ} {e : ℤ} (h : Full m e) : 0 < m := Nat.lt_of_lt_of_le (by norm_num) h.full

theorem Full.log {m : ℕ} {e : ℤ} (h : Full m e) : m.log2 = 52 :=
  (Nat.log2_eq_iff h.pos.ne').mpr ⟨h.full, h.lt⟩

/-- The parts of a rounded significand: one that has become a bit longer is halved. -/
def carry (r : ℕ) (T : ℤ) : ℕ × ℤ := if r < 2 ^ 53 then (r, T) else (2 ^ 52, T + 1)

section Carry

variable {r : ℕ} {T : ℤ} {y : ℝ}

theorem scaled_carry (most : r ≤ 2 ^ 53) : scaled (carry r T).1 (carry r T).2 = r * 2 ^ T := by
  unfold carry
  split_ifs with short
  · rfl
  · obtain rfl : r = 2 ^ 53 := by omega
    rw [scaled, zpow_add_one₀ two_ne_zero]
    push_cast
    ring

theorem full_carry (full : 2 ^ 52 ≤ r) (least : -1074 ≤ T) (greatest : T ≤ 970) :
    Full (carry r T).1 (carry r T).2 := by
  unfold carry
  split_ifs with short
  · exact ⟨full, short, least, by omega⟩
  · exact ⟨le_rfl, by norm_num, by dsimp only; omega, by dsimp only; omega⟩

/-- A number of 53 bits is a natural in units of a place where it has all of them. -/
theorem exists_natural_of_short (full : 2 ^ 52 ≤ y) {n : ℕ} {k : ℤ} (short : n < 2 ^ 53)
    (same : y * 2 ^ T = n * 2 ^ k) : ∃ w : ℕ, y = w := by
  have unit : (0 : ℝ) < 2 ^ T := by positivity
  -- The place divides the number: else the number would have too many bits above it.
  have place : T ≤ k := by
    by_contra finer
    have half : (2 : ℝ) ^ k ≤ 2 ^ (T - 1) := zpow_le_zpow_right₀ one_le_two (by omega)
    have short : (n : ℝ) < 2 ^ 53 := by exact_mod_cast short
    have less : y * 2 ^ T < 2 ^ 52 * 2 ^ T := by
      calc y * 2 ^ T = n * 2 ^ k := same
        _ < 2 ^ 53 * 2 ^ k := by gcongr
        _ ≤ 2 ^ 53 * 2 ^ (T - 1) := by gcongr
        _ = 2 ^ 52 * 2 ^ T := by rw [zpow_sub_one₀ two_ne_zero]; ring
    exact absurd (lt_of_mul_lt_mul_right less unit.le) full.not_gt
  refine ⟨n * 2 ^ (k - T).toNat, ?_⟩
  rw [← mul_left_inj' unit.ne', same]
  push_cast
  rw [mul_assoc, ← zpow_natCast, ← zpow_add₀ two_ne_zero]
  congr 2
  omega

theorem eq_of_near {w : ℕ} (near : |(r : ℝ) - w| ≤ 1 / 2) : r = w := by
  refine Nat.le_antisymm ?_ (ge_of_near near le_rfl)
  rw [abs_sub_comm] at near
  exact ge_of_near near le_rfl

/-- **A natural number that is at most a half away gives the nearest parts.** -/
theorem nearest_carry (lower : 2 ^ 52 ≤ y) (upper : y < 2 ^ 53) (near : |(r : ℝ) - y| ≤ 1 / 2)
    (least : -1074 ≤ T) (greatest : T ≤ 970) :
    r ≤ 2 ^ 53 ∧ Nearest (carry r T).1 (carry r T).2 (y * 2 ^ T) := by
  have unit : (0 : ℝ) < 2 ^ T := by positivity
  have most : r ≤ 2 ^ 53 := le_of_near near (by exact_mod_cast upper)
  have full : 2 ^ 52 ≤ r := ge_of_near near (by exact_mod_cast lower)
  have value := scaled_carry (T := T) most
  refine ⟨most, full_carry full least greatest, ?_, fun n k short same => ?_⟩
  · rw [value, ← sub_mul, abs_mul, abs_of_pos unit, mul_div_right_comm]
    gcongr
    calc |(r : ℝ) - y| ≤ 1 / 2 := near
      _ = 2 ^ 52 / 2 ^ 53 := by norm_num
      _ ≤ y / 2 ^ 53 := by gcongr
  · obtain ⟨w, rfl⟩ := exists_natural_of_short lower short same
    rw [value, eq_of_near near]

end Carry

/-! ### Parts and bits -/

theorem Full.unpack_pack {m : ℕ} {e : ℤ} (h : Full m e) (s : Sign) (hm : 0 < m) :
    (Float.Model.pack (.finite s m e hm)).unpack = .finite s m e hm := by
  have hfull := h.full
  have hlt := h.lt
  have hleast := h.least
  have hgreatest := h.greatest
  have hbias : Float.Model.Format.exponentBias .binary64 = 1023 := rfl
  have inRange : ¬ 2 ^ 11 ≤ (e + 1023 + 52).toNat + 1 := by omega
  have hlog : m.log2 + 1 = Float.Model.Format.mantissaBits .binary64 := by rw [h.log]; rfl
  have hm' : (1#1 ++ BitVec.ofNat 52 m).toNat = m := by
    rw [append_one_toNat, BitVec.toNat_ofNat]
    omega
  have hfield : (BitVec.ofNat 11 (e + 1023 + 52).toNat).toNat = (e + 1023 + 52).toNat := by
    rw [BitVec.toNat_ofNat, Nat.mod_eq_of_lt (by omega)]
  have top : BitVec.ofNat 11 (e + 1023 + 52).toNat ≠ -1#11 := fun same => by
    rw [same] at hfield
    change 2047 = _ at hfield
    omega
  have low : BitVec.ofNat 11 (e + 1023 + 52).toNat ≠ 0#11 := fun same => by
    rw [same] at hfield
    change 0 = _ at hfield
    omega
  change UnpackedFloat.unpack .binary64 (UnpackedFloat.pack .binary64 (.finite s m e hm)) = _
  unfold UnpackedFloat.pack
  simp only [hbias, Nat.cast_ofNat, if_neg inRange, if_pos hlog]
  unfold UnpackedFloat.unpack
  simp only [unpackMantissa_packComponents, unpackExponent_packComponents,
    unpackSign_packComponents, ofBitVec_toBitVec, if_neg top, if_neg low, hfield]
  congr 1
  rw [hbias]
  push_cast
  omega

section Fields

variable {spec : Float.Model.Format} (b : BitVec spec.numBits)

theorem toNat_unpackMantissa :
    (unpackMantissa b).toNat = b.toNat % 2 ^ spec.mantissaBitsWithoutImplicit := by
  rw [unpackMantissa_def, BitVec.extractLsb'_toNat, Nat.shiftRight_zero]

theorem toNat_unpackExponent :
    (unpackExponent b).toNat
      = b.toNat / 2 ^ spec.mantissaBitsWithoutImplicit % 2 ^ spec.exponentBits := by
  rw [unpackExponent_def, BitVec.extractLsb'_toNat, Nat.shiftRight_eq_div_pow]

theorem toNat_unpackSign :
    (unpackSign b).toNat
      = b.toNat / 2 ^ (spec.mantissaBitsWithoutImplicit + spec.exponentBits) % 2 := by
  rw [unpackSign_def, BitVec.extractLsb'_toNat, Nat.shiftRight_eq_div_pow, pow_one]

end Fields

theorem leastExponent_double : double.leastExponent = -1074 := by decide

/-- The parts of a magnitude with a sign. -/
def Magnitude.parts (s : Sign) (x : Magnitude) : UnpackedFloat :=
  if h : x.significand = 0 then .zero s
  else .finite s x.significand x.exponent (Nat.pos_of_ne_zero h)

theorem unpack_eq_parts {b : BitVec 64} (finite : b.toNat % double.signBit < double.infinity) :
    UnpackedFloat.unpack .binary64 b
      = (double.decode (b.toNat % double.signBit)).parts (.ofBitVec (@unpackSign .binary64 b)) := by
  have hE : (@unpackExponent .binary64 b).toNat = b.toNat % 2 ^ 63 / 2 ^ 52 := by
    rw [toNat_unpackExponent]
    change b.toNat / 2 ^ 52 % 2 ^ 11 = _
    omega
  have hM : (@unpackMantissa .binary64 b).toNat = b.toNat % 2 ^ 63 % 2 ^ 52 := by
    rw [toNat_unpackMantissa]
    change b.toNat % 2 ^ 52 = _
    omega
  change b.toNat % 2 ^ 63 < 2047 * 2 ^ 52 at finite
  change _ = (double.decode (b.toNat % 2 ^ 63)).parts _
  generalize b.toNat % 2 ^ 63 = bits at *
  have top : @unpackExponent .binary64 b ≠ -1#11 := fun same => by
    rw [same] at hE
    change 2047 = _ at hE
    omega
  unfold UnpackedFloat.unpack Magnitude.parts
  dsimp only
  rw [if_neg top]
  by_cases low : bits / 2 ^ 52 = 0
  · have hlow : @unpackExponent .binary64 b = 0#11 :=
      BitVec.eq_of_toNat_eq (by rw [hE, low]; rfl)
    have decoded : double.decode bits = ⟨bits % 2 ^ 52, -1074, false⟩ := if_pos low
    simp only [if_pos hlow, decoded]
    by_cases zero : bits % 2 ^ 52 = 0
    · rw [dif_pos (BitVec.eq_of_toNat_eq (by rw [hM, zero]; rfl)), dif_pos zero]
    · rw [dif_neg fun same => zero (by rw [← hM, same]; rfl), dif_neg zero]
      congr 1
      rw [hE, low]
      rfl
  · have hlow : @unpackExponent .binary64 b ≠ 0#11 := fun same => low (by rw [← hE, same]; rfl)
    have decoded : double.decode bits
        = ⟨2 ^ 52 + bits % 2 ^ 52, -1074 + (bits / 2 ^ 52 - 1 : ℕ), _⟩ := if_neg low
    simp only [if_neg hlow, decoded]
    rw [dif_neg (by omega)]
    congr 1
    · rw [append_one_toNat, hM]
    · rw [hE]
      change ((bits / 2 ^ 52 : ℕ) : ℤ) - (1023 + 52) = _
      omega

theorem unpack_positive {bits : ℕ} (finite : bits < double.infinity) :
    UnpackedFloat.unpack .binary64 (UInt64.ofNat bits).toBitVec
      = (double.decode bits).parts .positive := by
  have finite' : bits < 2047 * 2 ^ 52 := finite
  have word : (UInt64.ofNat bits).toBitVec.toNat = bits := by
    change bits % 2 ^ 64 = bits
    omega
  have rest : bits % double.signBit = bits := by
    change bits % 2 ^ 63 = bits
    omega
  have positive : @unpackSign .binary64 (UInt64.ofNat bits).toBitVec = Sign.positive.toBitVec := by
    refine BitVec.eq_of_toNat_eq ?_
    rw [toNat_unpackSign, word]
    change bits / 2 ^ 63 % 2 = 0
    omega
  rw [unpack_eq_parts (by rwa [word, rest]), word, rest, positive, ofBitVec_toBitVec]

/-! ### The rounding of computed parts -/

/-- The number is far from the ends of the range. -/
structure MidRange (r : ℝ) : Prop where
  least : 2 ^ (-250 : ℤ) ≤ r
  lt : r < 2 ^ (250 : ℤ)

theorem MidRange.log_bounds {x : ℝ} {e k : ℤ} (h : MidRange (x * 2 ^ e)) (lower : 2 ^ k ≤ x)
    (upper : x < 2 ^ (k + 1)) : -251 < k + e ∧ k + e < 250 := by
  have above : (2 : ℝ) ^ (-250 : ℤ) < 2 ^ (k + 1 + e) := by
    refine h.least.trans_lt ?_
    rw [zpow_add₀ two_ne_zero]
    gcongr
  have below : (2 : ℝ) ^ (k + e) < 2 ^ (250 : ℤ) := by
    refine lt_of_le_of_lt ?_ h.lt
    rw [zpow_add₀ two_ne_zero]
    gcongr
  have above := (zpow_lt_zpow_iff_right₀ one_lt_two).mp above
  have below := (zpow_lt_zpow_iff_right₀ one_lt_two).mp below
  omega

theorem shiftToTargetExponent_eq (m : ℕ) (e : ℤ) (acc : Accuracy) {k : ℕ}
    (shift : (max (m.log2 + 1 + e - 53) (-1074) - e).toNat = k) :
    shiftToTargetExponent .binary64 m e acc
      = (ExtendedMantissa.ofMantissaAndAccuracy m acc >>> k, e + k) := by
  subst shift
  rfl

/-- The second shift of a rounding is at most the one for the carry. -/
theorem shift_carry {r : ℕ} {T : ℤ} (full : 2 ^ 52 ≤ r) (most : r ≤ 2 ^ 53) (least : -1074 ≤ T) :
    shiftToTargetExponent .binary64 r T .exact
      = (⟨(carry r T).1, false, false⟩, (carry r T).2) := by
  unfold carry
  by_cases short : r < 2 ^ 53
  · have log : r.log2 = 52 := (Nat.log2_eq_iff (by omega)).mpr ⟨full, short⟩
    rw [shiftToTargetExponent_eq r T .exact (k := 0) (by omega), if_pos short, Nat.cast_zero,
      add_zero]
    rfl
  · obtain rfl : r = 2 ^ 53 := by omega
    have log : (2 ^ 53).log2 = 53 := Nat.log2_two_pow
    rw [shiftToTargetExponent_eq (2 ^ 53) T .exact (k := 1) (by omega), if_neg short]
    rfl

/-- What is located above a significand lies between the same powers of two. -/
theorem Locates.log_bounds {m : ℕ} {acc : Accuracy} {x : ℝ} (located : Locates acc (x - m))
    (pos : m ≠ 0) : (2 : ℝ) ^ (m.log2 : ℤ) ≤ x ∧ x < 2 ^ (m.log2 + 1 : ℤ) := by
  obtain ⟨above, below⟩ := located.bounds
  have lower : (2 : ℝ) ^ m.log2 ≤ m := by exact_mod_cast Nat.log2_self_le pos
  have upper : m + 1 ≤ 2 ^ (m.log2 + 1) := Nat.lt_log2_self
  have upper : (m + 1 : ℝ) ≤ 2 ^ (m.log2 + 1) := by exact_mod_cast upper
  have lt : x < 2 ^ (m.log2 + 1) := by linarith
  refine ⟨?_, by exact_mod_cast lt⟩
  rw [zpow_natCast]
  linarith

/-- **The result of a rounding has the nearest parts.** The exact result is `x * 2^e`, where
`x` is located above the significand `m`, which has enough bits. -/
theorem nearest_roundWithAccuracy {m : ℕ} {e : ℤ} {acc : Accuracy} {x : ℝ}
    (located : Locates acc (x - m)) (enough : 2 ^ 52 ≤ m) (midRange : MidRange (x * 2 ^ e)) :
    ∃ m' e', ∃ hm', roundWithAccuracy .binary64 .positive m e acc = .finite .positive m' e' hm' ∧
      Nearest m' e' (x * 2 ^ e) := by
  have pos : m ≠ 0 := by omega
  have log : 52 ≤ m.log2 := (Nat.le_log2 pos).mpr enough
  obtain ⟨lower, upper⟩ := located.log_bounds pos
  -- The last place of the result.
  obtain ⟨T, hT⟩ : ∃ T : ℤ, T = m.log2 + e - 52 := ⟨_, rfl⟩
  have value := eq_units x (by omega : e ≤ T)
  obtain ⟨least, greatest⟩ := midRange.log_bounds lower upper
  have first := shiftToTargetExponent_eq m e acc (k := (T - e).toNat) (by omega)
  rw [show e + ((T - e).toNat : ℤ) = T by omega] at first
  have near : |((ExtendedMantissa.ofMantissaAndAccuracy m acc
      >>> (T - e).toNat).roundedMantissa : ℝ) - x / 2 ^ (T - e).toNat| ≤ 1 / 2 :=
    ((represents_ofMantissaAndAccuracy located).shiftRight _).near
  have shift : (2 : ℝ) ^ (m.log2 : ℤ) = 2 ^ 52 * 2 ^ (T - e).toNat := by
    rw [← zpow_natCast, ← zpow_natCast, ← zpow_add₀ two_ne_zero]
    congr 1
    omega
  have power : (0 : ℝ) < 2 ^ (T - e).toNat := by positivity
  have lower' : 2 ^ 52 ≤ x / 2 ^ (T - e).toNat := by
    rwa [le_div_iff₀ power, ← shift]
  have upper' : x / 2 ^ (T - e).toNat < 2 ^ 53 := by
    rw [zpow_add_one₀ two_ne_zero, shift] at upper
    rw [div_lt_iff₀ power]
    linarith
  obtain ⟨most, nearest⟩ := nearest_carry lower' upper' near (by omega : -1074 ≤ T) (by omega)
  have full := ge_of_near near (n := 2 ^ 52) (by exact_mod_cast lower')
  rw [value]
  refine ⟨_, _, nearest.pos, ?_, nearest⟩
  unfold roundWithAccuracy
  simp only [first, shift_carry full most (by omega : -1074 ≤ T), dif_neg nearest.pos.ne']

/-! ### Products, quotients and ratios -/

namespace Double

/-- A positive number whose parts are nearest to a real number. -/
def Approximates (x : Float) (r : ℝ) : Prop :=
  ∃ m e, ∃ hm, x.toModel.unpack = .finite .positive m e hm ∧ Nearest m e r

/-- The real number that a finite number stands for. -/
noncomputable def real (x : Float) : ℝ := partsReal x.toModel.unpack

variable {x y : Float} {r q : ℝ}

theorem Approximates.near (h : Approximates x r) : |real x - r| ≤ r / 2 ^ 53 := by
  obtain ⟨m, e, hm, parts, nearest⟩ := h
  rw [real, parts]
  exact nearest.near

theorem Approximates.exact (h : Approximates x r) {n : ℕ} {k : ℤ} (short : n < 2 ^ 53)
    (eq : r = n * 2 ^ k) : real x = r := by
  obtain ⟨m, e, hm, parts, nearest⟩ := h
  rw [real, parts]
  exact nearest.exact n k short eq

theorem Approximates.pos (h : Approximates x r) : 0 < real x := by
  obtain ⟨m, e, hm, parts, nearest⟩ := h
  rw [real, parts]
  exact scaled_pos hm e

theorem Approximates.isInf (h : Approximates x r) : x.isInf = false := by
  obtain ⟨m, e, hm, parts, nearest⟩ := h
  change x.toModel.unpack.isInf = false
  rw [parts]
  rfl

theorem approximates_of_parts {y : UnpackedFloat} (packed : x.toModel = .pack y)
    (h : ∃ m e, ∃ hm, y = .finite .positive m e hm ∧ Nearest m e r) : Approximates x r := by
  obtain ⟨m, e, hm, rfl, nearest⟩ := h
  exact ⟨m, e, hm, packed ▸ nearest.unpack_pack .positive hm, nearest⟩

/-- **The product of two numbers is nearest to the exact one.** -/
theorem approximates_mul (hx : Approximates x r) (hy : Approximates y q)
    (midRange : MidRange (real x * real y)) : Approximates (x * y) (real x * real y) := by
  obtain ⟨m, e, hm, parts, nearest⟩ := hx
  obtain ⟨m', e', hm', parts', nearest'⟩ := hy
  have product : real x * real y = ((m * m' : ℕ) : ℝ) * 2 ^ (e + e') := by
    rw [real, real, parts, parts', zpow_add₀ two_ne_zero]
    simp only [partsReal, signed, scaled]
    push_cast
    ring
  have computed : (x * y).toModel
      = .pack (roundWithAccuracy .binary64 .positive (m * m') (e + e') .exact) := by
    change Float.Model.pack (UnpackedFloat.mul .binary64 x.toModel.unpack y.toModel.unpack) = _
    rw [parts, parts']
    rfl
  rw [product] at midRange ⊢
  have exact : Locates .exact (((m * m' : ℕ) : ℝ) - (m * m' : ℕ)) := sub_self _
  have enough : 2 ^ 52 ≤ m * m' := nearest.full.trans (Nat.le_mul_of_pos_right m hm')
  exact approximates_of_parts computed
    (nearest_roundWithAccuracy exact enough midRange)

theorem divCore_eq {m m' : ℕ} {e e' T : ℤ}
    (place : min (e - e') (max ((m.log2 + 1 + e) - (m'.log2 + 1 + e') - 53) (-1074)) = T) :
    divCore .binary64 m e m' e' = ((m <<< (e - e' - T).toNat) / m', T,
      accuracyOfFraction ((m <<< (e - e' - T).toNat) % m') m') := by
  subst place
  rfl

/-- **The quotient of two numbers is nearest to the exact one.** -/
theorem approximates_div (hx : Approximates x r) (hy : Approximates y q)
    (midRange : MidRange (real x / real y)) : Approximates (x / y) (real x / real y) := by
  obtain ⟨m, e, hm, parts, nearest⟩ := hx
  obtain ⟨m', e', hm', parts', nearest'⟩ := hy
  have quotient : real x / real y = ((m <<< 53 : ℕ) : ℝ) / m' * 2 ^ (e - e' - 53) := by
    have hm' : (m' : ℝ) ≠ 0 := by exact_mod_cast hm'.ne'
    rw [real, real, parts, parts', Nat.shiftLeft_eq, zpow_sub₀ two_ne_zero, zpow_sub₀ two_ne_zero]
    simp only [partsReal, signed, scaled]
    push_cast
    field_simp
    norm_num
  have full : (2 : ℝ) ^ 52 ≤ m' := by exact_mod_cast nearest'.full
  have short : (m : ℝ) < 2 ^ 53 := by exact_mod_cast nearest.lt
  -- The exponents are not so far apart that bits would be lost.
  have apart : -251 < e - e' := by
    have less : (2 : ℝ) ^ (-250 : ℤ) < 2 ^ (e - e' + 1) := by
      calc (2 : ℝ) ^ (-250 : ℤ) ≤ real x / real y := midRange.least
        _ = m / m' * 2 ^ (e - e') := by
          rw [real, real, parts, parts', zpow_sub₀ two_ne_zero]
          simp only [partsReal, signed, scaled]
          exact mul_div_mul_comm _ _ _ _
        _ < 2 ^ 53 / 2 ^ 52 * 2 ^ (e - e') := by gcongr
        _ = 2 ^ (e - e' + 1) := by rw [zpow_add_one₀ two_ne_zero]; ring
    have := (zpow_lt_zpow_iff_right₀ one_lt_two).mp less
    omega
  have place : min (e - e')
      (max (((m.log2 : ℤ) + 1 + e) - (m'.log2 + 1 + e') - 53) (-1074)) = e - e' - 53 := by
    rw [nearest.log, nearest'.log]
    omega
  have computed : (x / y).toModel = .pack (roundWithAccuracy .binary64 .positive
      ((m <<< 53) / m') (e - e' - 53) (accuracyOfFraction ((m <<< 53) % m') m')) := by
    have core := divCore_eq place
    rw [sub_sub_cancel] at core
    change Float.Model.pack (UnpackedFloat.div .binary64 x.toModel.unpack y.toModel.unpack) = _
    rw [parts, parts']
    unfold UnpackedFloat.div
    simp only [core]
    rfl
  have enough : 2 ^ 52 ≤ (m <<< 53) / m' := by
    rw [Nat.le_div_iff_mul_le hm', Nat.shiftLeft_eq]
    exact Nat.mul_le_mul nearest.full nearest'.lt.le
  rw [quotient] at midRange ⊢
  generalize m <<< 53 = w at *
  exact approximates_of_parts computed
    (nearest_roundWithAccuracy (locates_quotient w hm') enough midRange)

/-- A natural number that is nearest to a number, of two the even one. -/
theorem exists_near {y : ℝ} (nonneg : 0 ≤ y) :
    ∃ m : ℕ, |y - m| ≤ 1 / 2 ∧ (|y - m| = 1 / 2 → Even m) := by
  have under := Nat.floor_le nonneg
  have above := Nat.lt_floor_add_one y
  generalize ⌊y⌋₊ = f at *
  rcases lt_trichotomy (y - f) (1 / 2) with less | same | more
  · exact ⟨f, abs_le.mpr ⟨by linarith, less.le⟩, fun tie =>
      absurd tie (abs_lt.mpr ⟨by linarith, less⟩).ne⟩
  · rcases Nat.even_or_odd f with even | odd
    · exact ⟨f, abs_le.mpr ⟨by linarith, same.le⟩, fun _ => even⟩
    · refine ⟨f + 1, ?_, fun _ => odd.add_one⟩
      push_cast
      exact abs_le.mpr ⟨by linarith, by linarith⟩
  · refine ⟨f + 1, ?_, fun tie => ?_⟩
    · push_cast
      exact abs_le.mpr ⟨by linarith, by linarith⟩
    · push_cast at tie
      exact absurd tie (abs_lt.mpr ⟨by linarith, by linarith⟩).ne

theorem decode_full {s k : ℕ} (full : 2 ^ 52 ≤ s) (lt : s < 2 ^ 53) :
    double.decode (k * 2 ^ 52 + s) = ⟨s, -1074 + k, s == 2 ^ 52 && 0 < k⟩ := by
  rw [← leastExponent_double]
  exact double.decode_eq lt (.inl full)

/-- The magnitude of the bits that a rounded significand makes. -/
theorem decode_carry {r k : ℕ} (full : 2 ^ 52 ≤ r) (most : r ≤ 2 ^ 53) :
    (double.decode (k * 2 ^ 52 + r)).significand = (carry r (-1074 + k)).1 ∧
      (double.decode (k * 2 ^ 52 + r)).exponent = (carry r (-1074 + k)).2 := by
  unfold carry
  by_cases short : r < 2 ^ 53
  · rw [decode_full full short, if_pos short]
    exact ⟨rfl, rfl⟩
  · have bits : k * 2 ^ 52 + r = (k + 1) * 2 ^ 52 + 2 ^ 52 := by omega
    rw [bits, decode_full le_rfl (by norm_num), if_neg short]
    refine ⟨rfl, ?_⟩
    push_cast
    ring

/-- The number of bits is nearest to what their magnitude is nearest to. -/
theorem approximates_double64 {bits : ℕ} (finite : bits < double.infinity)
    (nearest : Nearest (double.decode bits).significand (double.decode bits).exponent r) :
    Approximates (double64 false bits) r := by
  refine approximates_of_parts rfl ⟨_, _, nearest.pos, ?_, nearest⟩
  exact (unpack_positive finite).trans (dif_neg nearest.pos.ne')

/-- **A rounded ratio is nearest to the exact one.** -/
theorem approximates_roundRatio {num den : ℕ} (hn : 0 < num) (hd : 0 < den)
    (midRange : MidRange (num / den)) :
    Approximates (double64 false (double.roundRatio num den)) (num / den) := by
  obtain ⟨lower, upper⟩ := floorLog2_spec hn hd
  have least := (zpow_lt_zpow_iff_right₀ one_lt_two).mp (midRange.least.trans_lt upper)
  have greatest := (zpow_lt_zpow_iff_right₀ one_lt_two).mp (lower.trans_lt midRange.lt)
  -- In units of its last place the ratio is `y`, and it is rounded to `m`.
  obtain ⟨k, hk⟩ : ∃ k : ℕ, (k : ℤ) = floorLog2 num den - 52 + 1074 :=
    ⟨_, Int.toNat_of_nonneg (by omega)⟩
  have unit : (0 : ℝ) < 2 ^ (-1074 + k : ℤ) := by positivity
  obtain ⟨y, ratio⟩ : ∃ y : ℝ, (num / den : ℝ) = y * 2 ^ (-1074 + k : ℤ) :=
    ⟨_, (div_mul_cancel₀ _ unit.ne').symm⟩
  have lower : 2 ^ 52 ≤ y := by
    rw [ratio, show floorLog2 num den = 52 + (-1074 + k) by omega,
      zpow_add₀ two_ne_zero 52] at lower
    exact_mod_cast le_of_mul_le_mul_right lower unit
  have upper : y < 2 ^ 53 := by
    rw [ratio, show floorLog2 num den + 1 = 53 + (-1074 + k) by omega,
      zpow_add₀ two_ne_zero 53] at upper
    exact_mod_cast lt_of_mul_lt_mul_right upper unit.le
  obtain ⟨m, near, tie⟩ := exists_near (le_trans (by positivity) lower)
  have rounded := roundRatio_eq_min (f := double) hn hd ratio upper (.inl lower) near tie
  rw [abs_sub_comm] at near
  obtain ⟨most, nearest⟩ := nearest_carry lower upper near (by omega : -1074 ≤ -1074 + (k : ℤ))
    (by omega)
  have full := ge_of_near near (n := 2 ^ 52) (by exact_mod_cast lower)
  obtain ⟨significand, exponent⟩ := decode_carry (k := k) full most
  have finite : k * 2 ^ 52 + m < 2047 * 2 ^ 52 := by omega
  have rounded : double.roundRatio num den = k * 2 ^ 52 + m := rounded.trans (min_eq_left finite.le)
  rw [rounded, ratio]
  rw [← significand, ← exponent] at nearest
  exact approximates_double64 finite nearest

/-! ### Narrowing -/

theorem ofBitVec_beq_negative :
    ∀ b : BitVec 1, (Sign.ofBitVec b == .negative) = decide (b.toNat = 1) := by
  decide

/-- **Narrowing rounds the ratio of the parts**, and keeps the sign. -/
theorem narrow_eq {s : Sign} {m : ℕ} {e : ℤ} {hm : 0 < m}
    (parts : x.toModel.unpack = .finite s m e hm) :
    narrow x = single32 (s == .negative)
      (single.roundRatio (m * Nat.pow 2 e.toNat) (Nat.pow 2 (-e).toNat)) := by
  have finite := magnitude_lt_infinity .binary64 x.toBits.toBitVec
    (congrArg UnpackedFloat.isFinite parts)
  have numeric : x.isNaN = false := congrArg UnpackedFloat.isNaN parts
  change UnpackedFloat.unpack .binary64 x.toBits.toBitVec = _ at parts
  rw [unpack_eq_parts finite, Magnitude.parts] at parts
  split at parts
  · cases parts
  obtain ⟨sign, significand, exponent⟩ := UnpackedFloat.finite.inj parts
  have negative : decide (x.toBits.toNat ≥ double.signBit) = (s == .negative) := by
    rw [← sign, ofBitVec_beq_negative, toNat_unpackSign, decide_eq_decide]
    change 2 ^ 63 ≤ x.toBits.toNat ↔ x.toBits.toNat / 2 ^ 63 % 2 = 1
    have := x.toBits.toNat_lt
    omega
  have finite : ¬ x.toBits.toNat % double.signBit ≥ double.infinity := Nat.not_le_of_lt finite
  unfold narrow roundFrom
  dsimp only
  rw [numeric, if_neg finite, if_neg Bool.false_ne_true, negative, ← significand, ← exponent]
  rfl

/-- A number around a single-precision magnitude is narrowed to it, with either sign. -/
theorem Approximates.narrow (h : Approximates x r) {bits : ℕ} (nonzero : bits ≠ 0)
    (finite : bits < single.infinity) (around : (single.decode bits).Around (real x))
    (negative : Bool) : narrow (if negative then -x else x) = single32 negative bits := by
  obtain ⟨m, e, hm, parts, nearest⟩ := h
  have ratio : ((m * Nat.pow 2 e.toNat : ℕ) : ℝ) / (Nat.pow 2 (-e).toNat : ℕ) = real x := by
    rw [real, parts, partsReal, signed, scaled, zpow_eq_div two_ne_zero, Nat.pow_eq, Nat.pow_eq]
    push_cast
    exact mul_div_assoc _ _ _
  have rounded := roundRatio_eq nonzero finite (Nat.mul_pos hm (Nat.two_pow_pos _))
    (Nat.two_pow_pos _) (ratio ▸ around)
  cases negative with
  | false =>
    rw [if_neg Bool.false_ne_true, narrow_eq parts]
    exact congrArg _ rounded
  | true =>
    have parts' : (-x).toModel.unpack = .finite .negative m e hm := by
      change (Float.Model.pack x.toModel.unpack.neg).unpack = _
      rw [parts]
      exact nearest.unpack_pack .negative hm
    rw [if_pos rfl, narrow_eq parts']
    exact congrArg _ rounded

end Double

end DocSieve
