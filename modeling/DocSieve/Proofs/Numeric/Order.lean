import Mathlib

/-!
# The order of single-precision numbers

A single-precision number that is not NaN stands for a value: a signed
significand times a power of two, a zero, or an infinity. The parts that its bits
give are canonical, that is, the significand is as long as the exponent allows, so
comparing exponents first and significands second is comparing values. Hence `≤`
and `<` are the order of the values, and hold of no NaN.

Key definitions: `Canonical`, `Single.value`.
Key theorems: `Single.le_iff`, `Single.lt_iff`.
-/

namespace DocSieve

open Float.Model Float.Model.UnpackedFloat

/-- The parts of a finite magnitude as the bits of a number give them. -/
structure Canonical (m : ℕ) (e : ℤ) : Prop where
  lt : m < 2 ^ 24
  least : -149 ≤ e
  greatest : e ≤ 104
  /-- Only at the least exponent the significand may be short. -/
  full : 2 ^ 23 ≤ m ∨ e = -149

/-- The magnitude with these parts. -/
noncomputable def scaled (m : ℕ) (e : ℤ) : ℝ := m * 2 ^ e

theorem scaled_pos {m : ℕ} (hm : 0 < m) (e : ℤ) : 0 < scaled m e := by
  unfold scaled
  positivity

theorem scaled_lt_of_exponent {m m' : ℕ} {e e' : ℤ} (h : Canonical m e) (h' : Canonical m' e')
    (less : e < e') : scaled m e < scaled m' e' := by
  have hfull : 2 ^ 23 ≤ m' := by
    rcases h'.full with full | low
    · exact full
    · have := h.least
      omega
  have hfull : (2 : ℝ) ^ 23 ≤ m' := by exact_mod_cast hfull
  have hlt : (m : ℝ) < 2 ^ 24 := by exact_mod_cast h.lt
  have hpos : (0 : ℝ) < 2 ^ e := by positivity
  have hpow : (2 : ℝ) ^ e * 2 ≤ 2 ^ e' := by
    rw [← zpow_add_one₀ (by norm_num)]
    exact zpow_le_zpow_right₀ (by norm_num) less
  unfold scaled
  calc (m : ℝ) * 2 ^ e
    _ < 2 ^ 24 * 2 ^ e := by gcongr
    _ = 2 ^ 23 * (2 ^ e * 2) := by ring
    _ ≤ m' * 2 ^ e' := by gcongr

theorem scaled_lt_of_significand {m m' : ℕ} (e : ℤ) (less : m < m') : scaled m e < scaled m' e := by
  unfold scaled
  gcongr

theorem compare_parts {m m' : ℕ} {e e' : ℤ} (h : Canonical m e) (h' : Canonical m' e') :
    (compare e e').then (compare m m') = cmp (scaled m e) (scaled m' e') := by
  rcases lt_trichotomy e e' with less | rfl | more
  · rw [compare_lt_iff_lt.mpr less, (cmp_eq_lt_iff _ _).mpr (scaled_lt_of_exponent h h' less)]
    rfl
  · rw [compare_eq_iff_eq.mpr rfl]
    rcases lt_trichotomy m m' with less | rfl | more
    · rw [compare_lt_iff_lt.mpr less, (cmp_eq_lt_iff _ _).mpr (scaled_lt_of_significand e less)]
      rfl
    · rw [compare_eq_iff_eq.mpr rfl, cmp_self_eq_eq]
      rfl
    · rw [compare_gt_iff_gt.mpr more, (cmp_eq_gt_iff _ _).mpr (scaled_lt_of_significand e more)]
      rfl
  · rw [compare_gt_iff_gt.mpr more, (cmp_eq_gt_iff _ _).mpr (scaled_lt_of_exponent h' h more)]
    rfl

/-! ### The value of the parts -/

/-- The value that the parts of a number stand for; that of NaN is not used. -/
noncomputable def partsValue : UnpackedFloat → EReal
  | .infinity .positive => ⊤
  | .infinity .negative => ⊥
  | .notANumber | .zero _ => 0
  | .finite .positive m e _ => (scaled m e : ℝ)
  | .finite .negative m e _ => (-scaled m e : ℝ)

/-- The parts are canonical where they are finite. -/
def CanonicalParts : UnpackedFloat → Prop
  | .finite _ m e _ => Canonical m e
  | _ => True

theorem append_one_toNat {n : ℕ} (b : BitVec n) : (1#1 ++ b).toNat = 2 ^ n + b.toNat := by
  rw [BitVec.toNat_append, ← Nat.shiftLeft_add_eq_or_of_lt b.isLt, BitVec.toNat_ofNat]
  simp [Nat.shiftLeft_eq]

theorem canonicalParts_unpack (x : Float32.Model) : CanonicalParts x.unpack := by
  have hm : (@unpackMantissa .binary32 x.toBits.toBitVec).toNat < 2 ^ 23 := BitVec.isLt _
  have he : (@unpackExponent .binary32 x.toBits.toBitVec).toNat < 2 ^ 8 := BitVec.isLt _
  have hsum : (1#1 ++ @unpackMantissa .binary32 x.toBits.toBitVec).toNat
      = 2 ^ 23 + (@unpackMantissa .binary32 x.toBits.toBitVec).toNat := append_one_toNat _
  unfold Float32.Model.unpack UnpackedFloat.unpack
  dsimp only
  split
  · split <;> trivial
  rename_i finite
  have hne : (@unpackExponent .binary32 x.toBits.toBitVec).toNat ≠ 255 := fun h =>
    finite (BitVec.eq_of_toNat_eq h)
  split
  · rename_i low
    split
    · trivial
    · refine ⟨hm.trans (by norm_num), ?_, ?_, .inr ?_⟩ <;>
      · rw [low]
        norm_num [Format.exponentBias]
  · rename_i high
    have hpos : (@unpackExponent .binary32 x.toBits.toBitVec).toNat ≠ 0 := fun h =>
      high (BitVec.eq_of_toNat_eq h)
    generalize (@unpackExponent .binary32 x.toBits.toBitVec).toNat = E at *
    have hbias : Format.exponentBias .binary32 = 127 := rfl
    refine ⟨?_, ?_, ?_, .inl ?_⟩
    · rw [hsum]
      omega
    · rw [hbias]
      push_cast
      omega
    · rw [hbias]
      push_cast
      omega
    · rw [hsum]
      omega

theorem compare_eq_cmp {x y : UnpackedFloat} (hx : CanonicalParts x) (hy : CanonicalParts y)
    (numx : x.isNaN = false) (numy : y.isNaN = false) :
    x.compare y = some (cmp (partsValue x) (partsValue y)) := by
  have below : ∀ {a b : EReal}, a < b → some Ordering.lt = some (cmp a b) :=
    fun h => congrArg some ((cmp_eq_lt_iff _ _).mpr h).symm
  have above : ∀ {a b : EReal}, b < a → some Ordering.gt = some (cmp a b) :=
    fun h => congrArg some ((cmp_eq_gt_iff _ _).mpr h).symm
  have level : ∀ a : EReal, some Ordering.eq = some (cmp a a) :=
    fun a => congrArg some (cmp_self_eq_eq a).symm
  have coe_lt : ∀ {a b : ℝ}, a < b → (a : EReal) < b := EReal.coe_lt_coe_iff.mpr
  -- An infinity on either side decides; so do two zeros.
  rcases x with (_ | _) | _ | _ | ⟨_ | _, m, e, hm⟩ <;>
    rcases y with (_ | _) | _ | _ | ⟨_ | _, m', e', hm'⟩ <;>
    first
    | contradiction
    | exact level _
    | exact below bot_lt_top
    | exact below (EReal.bot_lt_coe 0)
    | exact below (EReal.bot_lt_coe _)
    | exact below (EReal.coe_lt_top 0)
    | exact below (EReal.coe_lt_top _)
    | exact above bot_lt_top
    | exact above (EReal.bot_lt_coe 0)
    | exact above (EReal.bot_lt_coe _)
    | exact above (EReal.coe_lt_top 0)
    | exact above (EReal.coe_lt_top _)
    | skip
  · exact above (coe_lt (neg_lt_zero.mpr (scaled_pos hm' e')))
  · exact below (coe_lt (scaled_pos hm' e'))
  · exact below (coe_lt (neg_lt_zero.mpr (scaled_pos hm e)))
  · change some ((compare e e').then (compare m m')).swap = some (cmp (_ : EReal) _)
    have anti : StrictAnti fun r : ℝ => ((-r : ℝ) : EReal) := fun _ _ h => coe_lt (neg_lt_neg h)
    rw [compare_parts hx hy, cmp_swap, ← anti.cmp_map_eq]
    rfl
  · exact below (coe_lt ((neg_lt_zero.mpr (scaled_pos hm e)).trans (scaled_pos hm' e')))
  · exact above (coe_lt (scaled_pos hm e))
  · exact above (coe_lt ((neg_lt_zero.mpr (scaled_pos hm' e')).trans (scaled_pos hm e)))
  · change some ((compare e e').then (compare m m')) = some (cmp ((scaled m e : ℝ) : EReal) _)
    rw [compare_parts hx hy, ← EReal.coe_strictMono.cmp_map_eq]
    rfl

/-! ### Single-precision numbers -/

namespace Single

/-- The value of a number that is not NaN. -/
noncomputable def value (x : Float32) : EReal := partsValue x.toModel.unpack

theorem compare_eq {x y : Float32} (numx : x.isNaN = false) (numy : y.isNaN = false) :
    x.toModel.unpack.compare y.toModel.unpack = some (cmp (value x) (value y)) :=
  compare_eq_cmp (canonicalParts_unpack _) (canonicalParts_unpack _) numx numy

theorem compare_eq_none {x y : UnpackedFloat} (h : x.isNaN = true ∨ y.isNaN = true) :
    x.compare y = none := by
  rcases x with (_ | _) | _ | _ | ⟨_ | _, _, _, _⟩ <;>
    rcases y with (_ | _) | _ | _ | ⟨_ | _, _, _, _⟩ <;>
    first | rfl | simp [UnpackedFloat.isNaN] at h

theorem le_iff (x y : Float32) :
    x ≤ y ↔ x.isNaN = false ∧ y.isNaN = false ∧ value x ≤ value y := by
  have hle : x ≤ y ↔ (x.toModel.unpack.compare y.toModel.unpack).any (·.isLE) = true := by
    change decide (x.toModel.le y.toModel = true) = true ↔ _
    rw [decide_eq_true_iff]
    rfl
  rw [hle]
  by_cases numx : x.isNaN = true
  · rw [compare_eq_none (.inl numx)]
    simp only [Option.any_none, numx, Bool.true_eq_false, Bool.false_eq_true, false_and]
  by_cases numy : y.isNaN = true
  · rw [compare_eq_none (.inr numy)]
    simp only [Option.any_none, numy, Bool.true_eq_false, Bool.false_eq_true, false_and, and_false]
  rw [Bool.not_eq_true] at numx numy
  have isLE_iff : (cmp (value x) (value y)).isLE = true ↔ value x ≤ value y := by
    rw [Ordering.isLE_iff_ne_gt, cmp_eq_gt_iff, not_lt]
  rw [compare_eq numx numy, and_iff_right numx, and_iff_right numy]
  exact isLE_iff

theorem lt_iff (x y : Float32) :
    x < y ↔ x.isNaN = false ∧ y.isNaN = false ∧ value x < value y := by
  have hlt : x < y ↔ (x.toModel.unpack.compare y.toModel.unpack == some .lt) = true := by
    change decide (x.toModel.lt y.toModel = true) = true ↔ _
    rw [decide_eq_true_iff]
    rfl
  rw [hlt]
  have none_iff : (none == some Ordering.lt) = true ↔ False := by decide
  by_cases numx : x.isNaN = true
  · rw [compare_eq_none (.inl numx), none_iff]
    simp only [numx, Bool.true_eq_false, false_and]
  by_cases numy : y.isNaN = true
  · rw [compare_eq_none (.inr numy), none_iff]
    simp only [numy, Bool.true_eq_false, false_and, and_false]
  rw [Bool.not_eq_true] at numx numy
  rw [compare_eq numx numy, and_iff_right numx, and_iff_right numy, beq_iff_eq, Option.some.injEq]
  exact cmp_eq_lt_iff _ _

section Transitivity

variable {x y z : Float32}

protected theorem le_of_lt (h : x < y) : x ≤ y := by
  obtain ⟨numx, numy, hlt⟩ := (lt_iff _ _).mp h
  exact (le_iff _ _).mpr ⟨numx, numy, hlt.le⟩

protected theorem le_trans (h : x ≤ y) (h' : y ≤ z) : x ≤ z := by
  obtain ⟨numx, -, hle⟩ := (le_iff _ _).mp h
  obtain ⟨-, numz, hle'⟩ := (le_iff _ _).mp h'
  exact (le_iff _ _).mpr ⟨numx, numz, hle.trans hle'⟩

protected theorem lt_of_le_of_lt (h : x ≤ y) (h' : y < z) : x < z := by
  obtain ⟨numx, -, hle⟩ := (le_iff _ _).mp h
  obtain ⟨-, numz, hlt⟩ := (lt_iff _ _).mp h'
  exact (lt_iff _ _).mpr ⟨numx, numz, hle.trans_lt hlt⟩

protected theorem lt_of_lt_of_le (h : x < y) (h' : y ≤ z) : x < z := by
  obtain ⟨numx, -, hlt⟩ := (lt_iff _ _).mp h
  obtain ⟨-, numz, hle⟩ := (le_iff _ _).mp h'
  exact (lt_iff _ _).mpr ⟨numx, numz, hlt.trans_le hle⟩

protected theorem not_lt_self (x : Float32) : ¬ x < x :=
  fun h => lt_irrefl _ ((lt_iff _ _).mp h).2.2

protected theorem lt_of_not_le (numx : x.isNaN = false) (numy : y.isNaN = false)
    (h : ¬ y ≤ x) : x < y := by
  refine (lt_iff _ _).mpr ⟨numx, numy, not_le.mp fun hle => h ?_⟩
  exact (le_iff _ _).mpr ⟨numy, numx, hle⟩

protected theorem le_of_not_lt (numx : x.isNaN = false) (numy : y.isNaN = false)
    (h : ¬ y < x) : x ≤ y := by
  refine (le_iff _ _).mpr ⟨numx, numy, not_lt.mp fun hlt => h ?_⟩
  exact (lt_iff _ _).mpr ⟨numy, numx, hlt⟩

end Transitivity

end Single

end DocSieve
