import DocSieve.Proofs.Numeric.Arithmetic

/-!
# Integers in single precision

Canonical parts of a number other than zero are determined by its value
(`CanonicalParts.eq_of_partsReal`). So an operation whose exact result is an integer of
at most `2^24`, which is not rounded, returns the bits of that integer, and counting up
and down by one goes from integer to integer (`Single.ofInt_add_one`). A sum that comes
to zero is the zero with a positive sign.

Key definitions: `Single.ofInt`.
Key theorems: `CanonicalParts.eq_of_partsReal`, `Single.real_ofInt`, `Single.ofInt_add_one`.
-/

namespace DocSieve

open Float.Model Float.Model.UnpackedFloat

/-- An integer of at most `2^24` is not rounded. -/
theorem Rounds.exact_integer {z : ℤ} {q : ℝ} (h : Rounds z q) (bound : |z| ≤ 2 ^ 24) : q = z := by
  rcases bound.lt_or_eq with small | large
  · exact h.exact small (k := 0) (by norm_num) (by simp)
  · -- The bound has 25 bits, but only one that is not zero.
    rcases eq_or_eq_neg_of_abs_eq large with rfl | rfl
    · exact h.exact (m := 1) (k := 24) (by norm_num) (by norm_num) (by norm_num)
    · exact h.exact (m := -1) (k := 24) (by norm_num) (by norm_num) (by norm_num)

/-- An integer is rounded to an integer: above `2^24` the last place is that of an integer. -/
theorem Rounds.whole {z : ℤ} {q : ℝ} (h : Rounds z q) : ∃ w : ℤ, q = w := by
  by_cases small : |z| ≤ 2 ^ 24
  · exact ⟨z, h.exact_integer small⟩
  obtain ⟨T, -, upper, -, ⟨w, hw⟩, -⟩ := h
  have large : (2 : ℝ) ^ (24 : ℤ) < |(z : ℝ)| := by exact_mod_cast not_le.mp small
  have hT := (zpow_lt_zpow_iff_right₀ (by norm_num : (1 : ℝ) < 2)).mp (large.trans upper)
  refine ⟨w * 2 ^ T.toNat, ?_⟩
  have hT' : ((T.toNat : ℕ) : ℤ) = T := by omega
  rw [hw]
  push_cast
  rw [← zpow_natCast, hT']

/-- **Canonical parts of a number other than zero are determined by the number.** -/
theorem CanonicalParts.eq_of_partsReal {a b : UnpackedFloat} (ha : CanonicalParts a)
    (hb : CanonicalParts b) (same : partsReal a = partsReal b) (nonzero : partsReal a ≠ 0) :
    a = b := by
  cases a with
  | notANumber | infinity | zero => exact absurd rfl nonzero
  | finite s m e hm =>
    cases b with
    | notANumber | infinity | zero => exact absurd same nonzero
    | finite t m' e' hm' =>
      have pos := scaled_pos hm e
      have pos' := scaled_pos hm' e'
      have magnitude : scaled m e = scaled m' e' := by
        calc scaled m e = |partsReal (.finite s m e hm)| := by
              rw [partsReal, abs_signed, abs_of_pos pos]
          _ = |partsReal (.finite t m' e' hm')| := by rw [same]
          _ = scaled m' e' := by rw [partsReal, abs_signed, abs_of_pos pos']
      have sign : s = t := by
        cases s <;> cases t <;> first | rfl | (simp only [partsReal, signed] at same; linarith)
      have parts := compare_parts ha hb
      rw [magnitude, cmp_self_eq_eq, Ordering.then_eq_eq, compare_eq_iff_eq,
        compare_eq_iff_eq] at parts
      obtain ⟨rfl, rfl⟩ := parts
      rw [sign]

/-- Two results that are the same integer have the same parts. -/
theorem Rounded.eq_of_integer {a b : UnpackedFloat} {z : ℤ} (ha : Rounded a z) (hb : Rounded b z)
    (bound : |z| ≤ 2 ^ 24) (nonzero : z ≠ 0) : a = b := by
  have first := ha.rounds.exact_integer bound
  refine ha.canonical.eq_of_partsReal hb.canonical ?_ ?_
  · rw [first, hb.rounds.exact_integer bound]
  · rw [first]
    exact_mod_cast nonzero

namespace Single

theorem add_eq_of_canonical {a b : UnpackedFloat} (ha : CanonicalParts a) (hb : CanonicalParts b) :
    Float32.ofModel (.pack a) + .ofModel (.pack b) = .ofModel (.pack (.add .binary32 a b)) := by
  change Float32.ofModel (.pack (.add .binary32 (Float32.Model.pack a).unpack
    (Float32.Model.pack b).unpack)) = _
  congr 3
  · exact unpack_pack ha
  · exact unpack_pack hb

/-- The number nearest to an integer. Zero has a positive sign. -/
def ofInt (z : ℤ) : Float32 := .ofModel (.ofInt z)

theorem ofInt_zero : ofInt 0 = 0.0 := rfl

theorem ofInt_one : ofInt 1 = 1.0 := rfl

theorem ofInt_neg_one : ofInt (-1) = -1.0 := rfl

variable {z d : ℤ}

theorem rounded_ofInt (bound : |z| ≤ 2 ^ 24) :
    Rounded (UnpackedFloat.ofInt .binary32 z) z := by
  have bound : |(z : ℝ)| ≤ 2 ^ 24 := by exact_mod_cast bound
  have rounded := rounded_normalize z (e := 0) .positive (by
    rw [zpow_zero, mul_one]
    exact bound.trans_lt (by norm_num))
  rwa [zpow_zero, mul_one] at rounded

theorem real_ofInt (bound : |z| ≤ 2 ^ 24) : (ofInt z).isFinite = true ∧ real (ofInt z) = z := by
  obtain ⟨finite, rounds⟩ := approximates_of_rounded (rounded_ofInt bound)
  exact ⟨finite, rounds.exact_integer bound⟩

/-- **A step by one goes from integer to integer**, as long as neither is above `2^24`. -/
theorem ofInt_add_one (one : |d| = 1) (before : |z| ≤ 2 ^ 24) (after : |z + d| ≤ 2 ^ 24) :
    ofInt z + ofInt d = ofInt (z + d) := by
  by_cases zero : z + d = 0
  · obtain rfl : z = -d := by omega
    rcases eq_or_eq_neg_of_abs_eq one with rfl | rfl <;> rfl
  have bounded : |((z + d : ℤ) : ℝ)| < 2 ^ 127 := by
    have : |((z + d : ℤ) : ℝ)| ≤ 2 ^ 24 := by exact_mod_cast after
    exact this.trans_lt (by norm_num)
  have step : |d| ≤ 2 ^ 24 := one.trans_le (by norm_num)
  have start := rounded_ofInt before
  have change := rounded_ofInt step
  have sum := rounded_add start.canonical change.canonical start.finite change.finite
  rw [start.rounds.exact_integer before, change.rounds.exact_integer step, ← Int.cast_add] at sum
  have parts := (sum bounded).eq_of_integer (rounded_ofInt after) after zero
  unfold ofInt Float32.Model.ofInt
  rw [add_eq_of_canonical start.canonical change.canonical, parts]

end Single

end DocSieve
