import DocSieve.Proofs.Json.Number
import DocSieve.Proofs.Numeric.Double

/-!
# What is never NaN

Packing writes the bits of NaN for NaN only (`isNaN_unpack_pack`), so what is known of
the parts that an operation computes holds of its result. A product or a quotient of a
number with one that is neither zero nor infinite is not NaN, and rounding a ratio never
goes beyond the bits of infinity.

Key theorems: `isNaN_unpack_pack`, `Double.isNaN_mul`, `Double.isNaN_div`, `isNaN_narrow`.
-/

namespace DocSieve

open Float.Model Float.Model.UnpackedFloat BinaryFormat

/-! ### Packing -/

section Packing

variable {spec : Float.Model.Format}

theorem isNaN_unpack_packComponents {s : Sign} {e : BitVec spec.exponentBits}
    {m : BitVec spec.mantissaBitsWithoutImplicit} (h : e ≠ -1#_ ∨ m = 0#_) :
    (UnpackedFloat.unpack spec (packComponents spec s e m)).isNaN = false := by
  unfold UnpackedFloat.unpack
  simp only [unpackMantissa_packComponents, unpackExponent_packComponents]
  split_ifs <;> simp_all [UnpackedFloat.isNaN]

theorem isNaN_unpack_pack {u : UnpackedFloat} (numeric : u.isNaN = false) :
    (UnpackedFloat.unpack spec (UnpackedFloat.pack spec u)).isNaN = false := by
  have zero : (0#_ : BitVec spec.exponentBits) ≠ -1#_ := by
    rw [BitVec.neg_one_eq_allOnes, ne_eq, ← BitVec.toNat_inj, BitVec.toNat_allOnes]
    have := Nat.one_lt_two_pow spec.he.ne'
    simp only [BitVec.toNat_ofNat, Nat.zero_mod]
    omega
  cases u with
  | notANumber => cases numeric
  | infinity s => exact isNaN_unpack_packComponents (.inr rfl)
  | zero s => exact isNaN_unpack_packComponents (.inr rfl)
  | finite s m e hm =>
    unfold UnpackedFloat.pack
    dsimp only
    split_ifs with beyond full
    · exact isNaN_unpack_packComponents (.inr rfl)
    · refine isNaN_unpack_packComponents (.inl fun same => beyond ?_)
      rw [BitVec.neg_one_eq_allOnes, ← BitVec.toNat_inj, BitVec.toNat_allOnes,
        BitVec.toNat_ofNat] at same
      have := Nat.mod_le (e + spec.exponentBias + spec.mantissaBitsWithoutImplicit).toNat
        (2 ^ spec.exponentBits)
      omega
    · exact isNaN_unpack_packComponents (.inl zero)

theorem isNaN_unpack {b : BitVec spec.numBits}
    (below : b.toNat % 2 ^ (spec.mantissaBitsWithoutImplicit + spec.exponentBits)
      ≤ (2 ^ spec.exponentBits - 1) * 2 ^ spec.mantissaBitsWithoutImplicit) :
    (UnpackedFloat.unpack spec b).isNaN = false := by
  unfold UnpackedFloat.unpack
  dsimp only
  split_ifs with top zero
  · rfl
  · -- With all ones in the exponent, only the bits of infinity are not above those.
    refine absurd (BitVec.eq_of_toNat_eq ?_) zero
    have field := toNat_unpackExponent b
    rw [top, BitVec.neg_one_eq_allOnes, BitVec.toNat_allOnes, ← Nat.mod_mul_right_div_self,
      ← pow_add] at field
    have fraction := toNat_unpackMantissa b
    rw [← Nat.mod_mod_of_dvd _ (pow_dvd_pow 2 (Nat.le_add_right _ spec.exponentBits))] at fraction
    have parts := Nat.div_add_mod' (b.toNat % 2 ^ (spec.mantissaBitsWithoutImplicit
      + spec.exponentBits)) (2 ^ spec.mantissaBitsWithoutImplicit)
    rw [← field] at parts
    rw [fraction, BitVec.toNat_ofNat, Nat.zero_mod]
    omega
  · rfl
  · rfl
  · rfl

end Packing

theorem BinaryFormat.roundRatio_le (f : BinaryFormat) (num den : ℕ) :
    f.roundRatio num den ≤ f.infinity := by
  unfold roundRatio
  dsimp only
  split_ifs
  · exact Nat.zero_le _
  · exact min_le_right _ _

theorem isNaN_unpacked_neg (u : UnpackedFloat) : u.neg.isNaN = u.isNaN := by cases u <;> rfl

/-! ### Single precision -/

theorem isNaN_single32 (negative : Bool) {bits : ℕ} (h : bits ≤ single.infinity) :
    (single32 negative bits).isNaN = false := by
  have h : bits ≤ 255 * 2 ^ 23 := h
  have below : (UInt32.ofNat (bits + if negative then single.signBit else 0)).toBitVec.toNat
      % 2 ^ (23 + 8) ≤ (2 ^ 8 - 1) * 2 ^ 23 := by
    change (bits + if negative then 2 ^ 31 else 0) % 2 ^ 32 % 2 ^ 31 ≤ 255 * 2 ^ 23
    split_ifs <;> omega
  exact isNaN_unpack_pack (@isNaN_unpack .binary32 _ below)

theorem isNaN_neg {x : Float32} (numeric : x.isNaN = false) : (-x).isNaN = false :=
  @isNaN_unpack_pack .binary32 _ ((isNaN_unpacked_neg x.toModel.unpack).trans numeric)

theorem isNaN_narrow {x : Float} (numeric : x.isNaN = false) : (narrow x).isNaN = false := by
  unfold narrow
  dsimp only
  rw [numeric, if_neg Bool.false_ne_true]
  refine isNaN_single32 _ ?_
  unfold roundFrom
  split_ifs
  · exact le_rfl
  · exact roundRatio_le _ _ _

/-! ### Double precision -/

namespace Double

theorem isNaN_double64 (negative : Bool) {bits : ℕ} (h : bits ≤ double.infinity) :
    (double64 negative bits).isNaN = false := by
  have h : bits ≤ 2047 * 2 ^ 52 := h
  have below : (UInt64.ofNat (bits + if negative then double.signBit else 0)).toBitVec.toNat
      % 2 ^ (52 + 11) ≤ (2 ^ 11 - 1) * 2 ^ 52 := by
    change (bits + if negative then 2 ^ 63 else 0) % 2 ^ 64 % 2 ^ 63 ≤ 2047 * 2 ^ 52
    split_ifs <;> omega
  exact isNaN_unpack_pack (@isNaN_unpack .binary64 _ below)

/-- The parts are finite and not zero. -/
def ordinary : UnpackedFloat → Bool
  | .finite .. => true
  | _ => false

theorem isNaN_roundWithAccuracy (spec : Float.Model.Format) (s : Sign) (m : ℕ) (e : ℤ)
    (acc : Accuracy) : (roundWithAccuracy spec s m e acc).isNaN = false := by
  unfold roundWithAccuracy
  dsimp only
  split_ifs <;> rfl

/-- With ordinary parts a product and a quotient are no NaN, unless the other factor or the
dividend is. -/
theorem isNaN_mul_div_parts {u v : UnpackedFloat} (spec : Float.Model.Format)
    (numeric : u.isNaN = false) (h : ordinary v = true) :
    (mul spec u v).isNaN = false ∧ (div spec u v).isNaN = false := by
  cases v with
  | finite =>
    cases u with
    | notANumber => cases numeric
    | infinity => exact ⟨rfl, rfl⟩
    | zero => exact ⟨rfl, rfl⟩
    | finite => exact ⟨isNaN_roundWithAccuracy .., isNaN_roundWithAccuracy ..⟩
  | _ => cases h

variable {x y : Float}

theorem isNaN_neg (numeric : x.isNaN = false) : (-x).isNaN = false :=
  @isNaN_unpack_pack .binary64 _ ((isNaN_unpacked_neg x.toModel.unpack).trans numeric)

theorem isNaN_mul (numeric : x.isNaN = false) (h : ordinary y.toModel.unpack = true) :
    (x * y).isNaN = false :=
  isNaN_unpack_pack (isNaN_mul_div_parts .binary64 numeric h).1

theorem isNaN_div (numeric : x.isNaN = false) (h : ordinary y.toModel.unpack = true) :
    (x / y).isNaN = false :=
  isNaN_unpack_pack (isNaN_mul_div_parts .binary64 numeric h).2

end Double

end DocSieve
