import DocSieve.Metrics.Board
import DocSieve.Proofs.Numeric.Packing

/-!
# Latencies are numbers

The latency of a duration is computed from whole numbers by a quotient, a sum and a
product of numbers with a plus sign. None of these steps takes one infinity from
another or divides zero by zero, so that no latency is NaN (`isNaN_latencyMs?`). Of two
numbers that are not NaN one is at most the other (`Double.lt_of_not_le`); so each
latency has a place among the bounds of the buckets.

Key definition: `Plus`.
Key theorems: `isNaN_latencyMs?`, `Double.lt_of_not_le`.
-/

namespace DocSieve

open Float.Model Float.Model.UnpackedFloat

/-! ### Numbers with a plus sign -/

/-- The parts of a number with a plus sign: a zero, a magnitude or infinity, and not NaN. -/
def Plus : UnpackedFloat → Prop
  | .zero .positive | .infinity .positive | .finite .positive _ _ _ => True
  | _ => False

namespace Plus

variable {x y : UnpackedFloat}

theorem isNaN_eq (h : Plus x) : x.isNaN = false := by
  rcases x with (_ | _) | _ | (_ | _) | ⟨_ | _, _, _, _⟩ <;> first | rfl | cases h

theorem unpack {spec : Float.Model.Format} {b : BitVec spec.numBits}
    (positive : unpackSign b = Sign.positive.toBitVec)
    (number : unpackExponent b = -1#_ → unpackMantissa b = 0#_) :
    Plus (UnpackedFloat.unpack spec b) := by
  unfold UnpackedFloat.unpack
  simp only [positive, ofBitVec_toBitVec]
  by_cases top : unpackExponent b = -1#_
  · rw [if_pos top, if_pos (number top)]
    trivial
  · rw [if_neg top]
    split_ifs <;> trivial

theorem packComponents {spec : Float.Model.Format} {e : BitVec spec.exponentBits}
    {m : BitVec spec.mantissaBitsWithoutImplicit} (number : e = -1#_ → m = 0#_) :
    Plus (UnpackedFloat.unpack spec (UnpackedFloat.packComponents spec .positive e m)) := by
  refine Plus.unpack (by simp) ?_
  rwa [unpackExponent_packComponents, unpackMantissa_packComponents]

/-- Writing parts into bits keeps the sign. Beyond the range they become infinity. -/
theorem pack (h : Plus x) : Plus (Float.Model.pack x).unpack := by
  change Plus (UnpackedFloat.unpack .binary64 (UnpackedFloat.pack .binary64 x))
  rcases x with (_ | _) | _ | (_ | _) | ⟨_ | _, m, e, hm⟩ <;> try cases h
  · exact packComponents fun _ => rfl
  · exact packComponents fun _ => rfl
  · unfold UnpackedFloat.pack
    dsimp only
    split_ifs with beyond full
    · exact packComponents fun _ => rfl
    · refine packComponents fun top => absurd (congrArg BitVec.toNat top) ?_
      change (BitVec.ofNat 11 _).toNat ≠ 2047
      rw [BitVec.toNat_ofNat, Nat.mod_eq_of_lt (by omega)]
      omega
    · exact packComponents fun top => absurd (congrArg BitVec.toNat top) (by decide)

theorem roundWithAccuracy (spec : Float.Model.Format) (m : ℕ) (e : ℤ) (acc : Accuracy) :
    Plus (UnpackedFloat.roundWithAccuracy spec .positive m e acc) := by
  unfold UnpackedFloat.roundWithAccuracy
  dsimp only
  split_ifs <;> trivial

theorem add (hx : Plus x) (hy : Plus y) : Plus (UnpackedFloat.add .binary64 x y) := by
  rcases x with (_ | _) | _ | (_ | _) | ⟨_ | _, m, e, hm⟩ <;> try cases hx
  all_goals rcases y with (_ | _) | _ | (_ | _) | ⟨_ | _, m', e', hm'⟩ <;> try cases hy
  all_goals try trivial
  -- Two magnitudes are left.
  unfold UnpackedFloat.add UnpackedFloat.normalize
  dsimp only
  split
  · rename_i less
    have := Int.compare_eq_lt.mp less
    simp only [Sign.apply] at this
    omega
  · trivial
  · exact roundWithAccuracy _ _ _ _

variable {m : ℕ} {e : ℤ} (hm : 0 < m)

/-- Only zero and infinity are no divisors of every number. -/
theorem div (hx : Plus x) : Plus (UnpackedFloat.div .binary64 x (.finite .positive m e hm)) := by
  rcases x with (_ | _) | _ | (_ | _) | ⟨_ | _, _, _, _⟩ <;> try cases hx
  · trivial
  · trivial
  · exact roundWithAccuracy _ _ _ _

theorem mul (hx : Plus x) : Plus (UnpackedFloat.mul .binary64 x (.finite .positive m e hm)) := by
  rcases x with (_ | _) | _ | (_ | _) | ⟨_ | _, _, _, _⟩ <;> try cases hx
  · trivial
  · trivial
  · exact roundWithAccuracy _ _ _ _

end Plus

/-- Bits up to those of infinity stand for a number with a plus sign. -/
theorem plus_double64 {bits : ℕ} (h : bits ≤ BinaryFormat.double.infinity) :
    Plus (double64 false bits).toModel.unpack := by
  have infinity : BinaryFormat.double.infinity = 2047 * 2 ^ 52 := by decide
  rw [infinity] at h
  have value : (UInt64.ofNat (bits + 0)).toBitVec.toNat = bits := by
    change BitVec.toNat (BitVec.ofNat 64 (bits + 0)) = bits
    rw [BitVec.toNat_ofNat, add_zero, Nat.mod_eq_of_lt (by omega)]
  change Plus (Float.Model.pack (.unpack .binary64 (UInt64.ofNat (bits + 0)).toBitVec)).unpack
  refine Plus.pack (Plus.unpack (BitVec.eq_of_toNat_eq ?_) fun top => BitVec.eq_of_toNat_eq ?_)
  · rw [unpackSign_def, BitVec.extractLsb'_toNat, value, Nat.shiftRight_eq_div_pow]
    change bits / 2 ^ 63 % 2 = 0
    omega
  · have field := congrArg BitVec.toNat top
    rw [unpackExponent_def, BitVec.extractLsb'_toNat, value, Nat.shiftRight_eq_div_pow] at field
    change bits / 2 ^ 52 % 2 ^ 11 = 2047 at field
    rw [unpackMantissa_def, BitVec.extractLsb'_toNat, value, Nat.shiftRight_zero]
    change bits % 2 ^ 52 = 0
    omega

theorem plus_naturalToDouble (n : ℕ) : Plus (naturalToDouble n).toModel.unpack := by
  refine plus_double64 ?_
  unfold BinaryFormat.roundRatio
  split
  · exact Nat.zero_le _
  · exact min_le_right _ _

/-- **The latency of a duration is a number.** -/
theorem isNaN_latencyMs? {seconds : UInt64} {nanoseconds : UInt32} {ms : Float}
    (h : latencyMs? seconds nanoseconds = some ms) : ms.isNaN = false := by
  unfold latencyMs? at h
  dsimp only at h
  split at h
  · cases h
    have quotient {n : ℕ} : Plus (naturalToDouble n / 1e9).toModel.unpack :=
      Plus.pack (Plus.div (by decide) (plus_naturalToDouble n))
    exact (Plus.pack (Plus.mul (by decide)
      (Plus.pack (Plus.add (plus_naturalToDouble _) quotient)))).isNaN_eq
  · cases h

/-! ### The order of double-precision numbers -/

theorem compare_swap (x y : UnpackedFloat) : y.compare x = (x.compare y).map Ordering.swap := by
  have parts (e e' : ℤ) (m m' : ℕ) :
      (compare e' e).then (compare m' m) = ((compare e e').then (compare m m')).swap := by
    rw [Ordering.swap_then, ← Std.OrientedCmp.eq_swap, ← Std.OrientedCmp.eq_swap]
  rcases x with (_ | _) | _ | (_ | _) | ⟨_ | _, m, e, hm⟩ <;>
    rcases y with (_ | _) | _ | (_ | _) | ⟨_ | _, m', e', hm'⟩ <;> try rfl
  · exact congrArg some (congrArg Ordering.swap (parts e e' m m'))
  · exact congrArg some (parts e e' m m')

theorem isSome_compare {x y : UnpackedFloat} (numx : x.isNaN = false) (numy : y.isNaN = false) :
    (x.compare y).isSome = true := by
  rcases x with (_ | _) | _ | (_ | _) | ⟨_ | _, _, _, _⟩ <;>
    rcases y with (_ | _) | _ | (_ | _) | ⟨_ | _, _, _, _⟩ <;> first | rfl | contradiction

theorem Double.lt_of_not_le {x y : Float} (numx : x.isNaN = false) (numy : y.isNaN = false)
    (h : ¬ y ≤ x) : x < y := by
  change ¬ decide (y.toModel.le x.toModel = true) = true at h
  change decide (x.toModel.lt y.toModel = true) = true
  rw [decide_eq_true_iff] at h ⊢
  change ¬ (y.toModel.unpack.compare x.toModel.unpack).any (·.isLE) = true at h
  change (x.toModel.unpack.compare y.toModel.unpack == some .lt) = true
  obtain ⟨order, found⟩ := Option.isSome_iff_exists.mp (isSome_compare numx numy)
  rw [compare_swap, found] at h
  rw [found]
  cases order with
  | lt => rfl
  | eq | gt => exact absurd rfl h

theorem Double.not_le_of_lt {x y : Float} (h : x < y) : ¬ y ≤ x := by
  intro le
  change decide (x.toModel.lt y.toModel = true) = true at h
  change decide (y.toModel.le x.toModel = true) = true at le
  rw [decide_eq_true_iff] at h le
  change (x.toModel.unpack.compare y.toModel.unpack == some .lt) = true at h
  change (y.toModel.unpack.compare x.toModel.unpack).any (·.isLE) = true at le
  rw [compare_swap, beq_iff_eq.mp h] at le
  cases le

end DocSieve
