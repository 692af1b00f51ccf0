import DocSieve.Proofs.Numeric.Order

/-!
# Bits and parts of a single-precision number

Canonical parts are written into bits and read back unchanged (`unpack_pack`). So
what is proved of the parts that an operation computes holds of the number that it
returns.

Key theorems: `unpack_pack`.
-/

namespace DocSieve

open Float.Model Float.Model.UnpackedFloat

@[simp]
theorem unpackSign_packComponents {spec : Float.Model.Format} (s : Sign)
    (e : BitVec spec.exponentBits) (m : BitVec spec.mantissaBitsWithoutImplicit) :
    unpackSign (packComponents spec s e m) = s.toBitVec := by
  apply BitVec.eq_of_getLsbD_eq
  intro i hi
  obtain rfl : i = 0 := by omega
  simp [unpackSign, packComponents, BitVec.getLsbD_append, BitVec.getElem_append]

@[simp]
theorem ofBitVec_toBitVec (s : Sign) : Sign.ofBitVec s.toBitVec = s := by
  cases s <;> rfl

/-- The parts of the components that are not those of an infinity or NaN. -/
theorem unpack_packComponents_normal (s : Sign) {e : BitVec 8} {m : BitVec 23}
    (hm : 0 < (1#1 ++ m).toNat) (notTop : e.toNat < 255) (notLow : 0 < e.toNat) :
    UnpackedFloat.unpack .binary32 (packComponents .binary32 s e m)
      = .finite s (1#1 ++ m).toNat (e.toNat - 150) hm := by
  have top : e ≠ -1#8 := fun h => by simp [h] at notTop
  have low : e ≠ 0#8 := fun h => by simp [h] at notLow
  unfold UnpackedFloat.unpack
  simp only [unpackMantissa_packComponents, unpackExponent_packComponents,
    unpackSign_packComponents, ofBitVec_toBitVec, top, low, if_false]
  rfl

/-- The parts of the components with the least exponent. -/
theorem unpack_packComponents_subnormal (s : Sign) {m : BitVec 23} (hm : 0 < m.toNat) :
    UnpackedFloat.unpack .binary32 (packComponents .binary32 s 0#8 m)
      = .finite s m.toNat (-149) hm := by
  have nonzero : m ≠ 0#23 := fun h => by simp [h] at hm
  have top : (0#8 : BitVec 8) ≠ -1#8 := by decide
  unfold UnpackedFloat.unpack
  simp only [unpackMantissa_packComponents, unpackExponent_packComponents,
    unpackSign_packComponents, ofBitVec_toBitVec, top, nonzero, if_false, if_true]
  rfl

theorem unpack_pack_finite (s : Sign) {m : ℕ} {e : ℤ} (hm : 0 < m) (h : Canonical m e) :
    UnpackedFloat.unpack .binary32 (UnpackedFloat.pack .binary32 (.finite s m e hm))
      = .finite s m e hm := by
  have hlt := h.lt
  have hleast := h.least
  have hgreatest := h.greatest
  have hbias : Float.Model.Format.exponentBias .binary32 = 127 := rfl
  have inRange : ¬ 2 ^ 8 ≤ (e + 127 + 23).toNat + 1 := by omega
  have hfield : (BitVec.ofNat 8 (e + 127 + 23).toNat).toNat = (e + 127 + 23).toNat := by
    rw [BitVec.toNat_ofNat, Nat.mod_eq_of_lt (by omega)]
  unfold UnpackedFloat.pack
  simp only [hbias, Nat.cast_ofNat, if_neg inRange]
  by_cases full : 2 ^ 23 ≤ m
  · -- The leading bit is left out of the bits, and put back.
    have hlog : m.log2 + 1 = Float.Model.Format.mantissaBits .binary32 := by
      have lower := (Nat.le_log2 hm.ne').mpr full
      have upper := (Nat.log2_lt hm.ne').mpr hlt
      change m.log2 + 1 = 24
      omega
    have hm' : (1#1 ++ BitVec.ofNat 23 m).toNat = m := by
      rw [append_one_toNat, BitVec.toNat_ofNat]
      omega
    rw [if_pos hlog, unpack_packComponents_normal s (by omega) (by omega) (by omega)]
    congr 1
    omega
  · have hlog : ¬ m.log2 + 1 = Float.Model.Format.mantissaBits .binary32 := by
      have upper := (Nat.log2_lt hm.ne').mpr (by omega : m < 2 ^ 23)
      change ¬ m.log2 + 1 = 24
      omega
    have hm' : (BitVec.ofNat 23 m).toNat = m := by
      rw [BitVec.toNat_ofNat]
      omega
    have low : e = -149 := h.full.resolve_left full
    rw [if_neg hlog, unpack_packComponents_subnormal s (by omega)]
    congr 1
    exact low.symm

/-- **Canonical parts are written into bits and read back unchanged.** -/
theorem unpack_pack {x : UnpackedFloat} (h : CanonicalParts x) :
    (Float32.Model.pack x).unpack = x := by
  cases x with
  | notANumber => rfl
  | infinity s => cases s <;> rfl
  | zero s => cases s <;> rfl
  | finite s m e hm => exact unpack_pack_finite s hm h

end DocSieve
