import DocSieve.Proofs.Numeric.Order

/-!
# Rounding to single precision

An operation is computed as a significand, an exponent and the place of the exact
result between that significand and the next one. Shifting to the right keeps track
of the place in two more bits (`Represents.shiftRight`), so the final rounding goes
to a nearest multiple of the last place, which is `2^T` for a result from `2^(T+23)`
up to `2^(T+24)`, and at least `2^-149` (`rounded_roundWithAccuracy`). From there
only `Rounds` is needed: a number with at most 24 bits is not changed
(`Rounds.exact`), a power of two is not crossed by little (`Rounds.le_pow`), and the
error of others is at most one part in `2^24` (`Rounds.relative`).

Key definitions: `RoundsAt`, `Rounds`, `Locates`, `Represents`, `Rounded`.
Key theorems: `rounded_roundWithAccuracy`, `Rounds.exact`, `Rounds.le_pow`,
`Rounds.relative`.
-/

namespace DocSieve

open Float.Model Float.Model.UnpackedFloat

/-! ### Nearest multiples of the last place -/

/-- `q` is a nearest multiple of the last place of `r`, which is `2^T`. -/
structure RoundsAt (T : ℤ) (r q : ℝ) : Prop where
  least : -149 ≤ T
  upper : |r| < 2 ^ (T + 24)
  /-- The number has 24 bits above the last place, unless that is the least one. -/
  lower : 2 ^ (T + 23) ≤ |r| ∨ T = -149
  multiple : ∃ z : ℤ, q = z * 2 ^ T
  near : |q - r| ≤ 2 ^ T / 2

/-- `q` is `r`, rounded. -/
def Rounds (r q : ℝ) : Prop := ∃ T : ℤ, RoundsAt T r q

theorem Rounds.neg {r q : ℝ} (h : Rounds r q) : Rounds (-r) (-q) := by
  obtain ⟨T, least, upper, lower, ⟨z, hz⟩, near⟩ := h
  refine ⟨T, least, by rwa [abs_neg], by rwa [abs_neg], ⟨-z, by push_cast; rw [hz]; ring⟩, ?_⟩
  rwa [neg_sub_neg, abs_sub_comm]

theorem eq_of_multiples {a b : ℤ} {T : ℤ} (near : |(a : ℝ) * 2 ^ T - b * 2 ^ T| < 2 ^ T) :
    a = b := by
  have hpos : (0 : ℝ) < 2 ^ T := by positivity
  rw [← sub_mul, abs_mul, abs_of_pos hpos, mul_lt_iff_lt_one_left hpos] at near
  have hlt : |a - b| < 1 := by exact_mod_cast near
  have := Int.abs_lt_one_iff.mp hlt
  omega

/-- What is a multiple of its last place is not changed. -/
theorem Rounds.eq_of_multiple {r q : ℝ} (h : Rounds r q)
    (multiple : ∀ T : ℤ, -149 ≤ T → (2 ^ (T + 23) ≤ |r| ∨ T = -149) → ∃ z : ℤ, r = z * 2 ^ T) :
    q = r := by
  obtain ⟨T, least, -, lower, ⟨z, hz⟩, near⟩ := h
  obtain ⟨w, hw⟩ := multiple T least lower
  have hpos : (0 : ℝ) < 2 ^ T := by positivity
  rw [hz, hw] at near ⊢
  rw [eq_of_multiples (near.trans_lt (half_lt_self hpos))]

theorem Rounds.exact {r q : ℝ} (h : Rounds r q) {m k : ℤ} (hm : |m| < 2 ^ 24) (hk : -149 ≤ k)
    (eq : r = m * 2 ^ k) : q = r := by
  refine h.eq_of_multiple fun T least lower => ?_
  -- The last place is at most `2^k`: else the number has 24 bits above `2^k`.
  have hT : T ≤ k := by
    rcases lower with full | low
    · by_contra above
      have hbits : |r| < 2 ^ (T + 23) := by
        have hm' : |(m : ℝ)| < 2 ^ 24 := by exact_mod_cast hm
        have hpos : (0 : ℝ) < 2 ^ k := by positivity
        calc |r| = |(m : ℝ)| * 2 ^ k := by rw [eq, abs_mul, abs_of_pos hpos]
          _ < 2 ^ 24 * 2 ^ k := by gcongr
          _ = 2 ^ (k + 24) := by rw [zpow_add₀ (by norm_num)]; ring
          _ ≤ 2 ^ (T + 23) := zpow_le_zpow_right₀ (by norm_num) (by omega)
      exact absurd full hbits.not_ge
    · omega
  refine ⟨m * 2 ^ (k - T).toNat, ?_⟩
  have hshift : (k - T).toNat + T = k := by omega
  rw [eq]
  push_cast
  rw [mul_assoc, ← zpow_natCast, ← zpow_add₀ (by norm_num), hshift]

theorem Rounds.of_zero {q : ℝ} (h : Rounds 0 q) : q = 0 :=
  h.exact (m := 0) (k := 0) (by norm_num) (by norm_num) (by norm_num)

/-- The error is at most one part in `2^24`, unless the number is very small. -/
theorem Rounds.relative {r q : ℝ} (h : Rounds r q) (large : 2 ^ (-126 : ℤ) ≤ |r|) :
    |q - r| ≤ |r| / 2 ^ 24 := by
  obtain ⟨T, -, -, lower, -, near⟩ := h
  have hfull : (2 : ℝ) ^ (T + 23) ≤ |r| := by
    rcases lower with full | rfl
    · exact full
    · exact large
  calc |q - r| ≤ 2 ^ T / 2 := near
    _ = 2 ^ (T + 23) / 2 ^ 24 := by rw [zpow_add₀ (by norm_num)]; norm_num; ring
    _ ≤ |r| / 2 ^ 24 := by gcongr

/-- Rounding does not cross a power of two that the number hardly exceeds. -/
theorem Rounds.le_pow {r q : ℝ} (h : Rounds r q) {K : ℤ} (hK : -125 ≤ K)
    (hr : |r| < 2 ^ K + 2 ^ (K - 24)) : |q| ≤ 2 ^ K := by
  obtain ⟨T, least, upper, lower, ⟨z, hz⟩, near⟩ := h
  have hpos : (0 : ℝ) < 2 ^ T := by positivity
  have hone : (2 : ℝ) ^ (K - 24) ≤ 2 ^ K := zpow_le_zpow_right₀ (by norm_num) (by omega)
  have hT : T ≤ K - 23 := by
    rcases lower with full | low
    · have hlt : (2 : ℝ) ^ (T + 23) < 2 ^ (K + 1) := by
        rw [zpow_add_one₀ (by norm_num)]
        linarith
      have := (zpow_lt_zpow_iff_right₀ (by norm_num : (1 : ℝ) < 2)).mp hlt
      omega
    · omega
  -- The multiple `q` is less than one place above the power, which is itself a multiple.
  have hq : |q| < 2 ^ K + 2 ^ T := by
    have triangle : |q| ≤ |r| + |q - r| := by
      calc |q| = |r + (q - r)| := by rw [add_sub_cancel]
        _ ≤ |r| + |q - r| := abs_add_le _ _
    rcases hT.lt_or_eq with below | rfl
    · have hle : (2 : ℝ) ^ (T + 24) ≤ 2 ^ K := zpow_le_zpow_right₀ (by norm_num) (by omega)
      linarith
    · have split : (2 : ℝ) ^ (K - 23) = 2 ^ (K - 24) + 2 ^ (K - 24) := by
        rw [← mul_two, ← zpow_add_one₀ (by norm_num)]
        congr 1
        omega
      linarith
  have hpow : (2 : ℝ) ^ K = 2 ^ (K - T).toNat * 2 ^ T := by
    rw [← zpow_natCast, ← zpow_add₀ (by norm_num)]
    congr 1
    omega
  rw [hz, abs_mul, abs_of_pos hpos, hpow] at hq ⊢
  have hlt : |(z : ℝ)| < 2 ^ (K - T).toNat + 1 := by
    rw [← add_one_mul, mul_lt_mul_iff_left₀ hpos] at hq
    exact hq
  have hle : |z| ≤ 2 ^ (K - T).toNat := Int.lt_add_one_iff.mp (by exact_mod_cast hlt)
  have hle : |(z : ℝ)| ≤ 2 ^ (K - T).toNat := by exact_mod_cast hle
  gcongr

/-! ### The place between two significands -/

/-- The fraction of a number above its significand, as an accuracy tells it. -/
def Locates : Accuracy → ℝ → Prop
  | .exact, f => f = 0
  | .inexact .lt, f => 0 < f ∧ f + f < 1
  | .inexact .eq, f => f + f = 1
  | .inexact .gt, f => 1 < f + f ∧ f < 1

theorem Locates.bounds {acc : Accuracy} {f : ℝ} (h : Locates acc f) : 0 ≤ f ∧ f < 1 := by
  rcases acc with _ | (_ | _ | _) <;> simp only [Locates] at h <;> constructor <;> linarith

/-- A significand with its two further bits stands for a number. -/
def Represents (em : ExtendedMantissa) (x : ℝ) : Prop := Locates em.accuracy (x - em.mantissa)

theorem represents_ofMantissaAndAccuracy {m : ℕ} {acc : Accuracy} {x : ℝ}
    (h : Locates acc (x - m)) : Represents (.ofMantissaAndAccuracy m acc) x := by
  rcases acc with _ | (_ | _ | _) <;> exact h

theorem Represents.shiftRightOne {em : ExtendedMantissa} {x : ℝ} (h : Represents em x) :
    Represents em.shiftRightOne (x / 2) := by
  obtain ⟨m, roundBit, stickyBit⟩ := em
  obtain ⟨k, rfl | rfl⟩ := m.even_or_odd'
  all_goals
    have half : (2 * k + 1) / 2 = k := by omega
    have odd : (2 * k + 1) % 2 = 1 := by omega
    cases roundBit <;> cases stickyBit <;>
      simp [Represents, Locates, ExtendedMantissa.shiftRightOne, ExtendedMantissa.accuracy,
        half, odd] at h ⊢ <;>
      first | constructor <;> linarith | linarith

theorem Represents.shiftRight {em : ExtendedMantissa} {x : ℝ} (h : Represents em x) (n : ℕ) :
    Represents (em >>> n) (x / 2 ^ n) := by
  change Represents (n.repeat ExtendedMantissa.shiftRightOne em) _
  induction n with
  | zero => simpa [Nat.repeat] using h
  | succ n ih =>
    rw [Nat.repeat, pow_succ, ← div_div]
    exact ih.shiftRightOne

/-- The significand is rounded to a nearest natural number. -/
theorem Represents.near {em : ExtendedMantissa} {x : ℝ} (h : Represents em x) :
    |(em.roundedMantissa : ℝ) - x| ≤ 1 / 2 := by
  obtain ⟨m, roundBit, stickyBit⟩ := em
  rw [abs_le]
  cases roundBit <;> cases stickyBit <;>
    simp only [Represents, Locates, ExtendedMantissa.accuracy, ExtendedMantissa.roundedMantissa,
      Accuracy.roundToNearestEven] at h ⊢
  · constructor <;> linarith
  · constructor <;> linarith
  · have hmod : (m % 2 : ℕ) = 0 ∨ (m % 2 : ℕ) = 1 := by omega
    rcases hmod with even | odd
    · rw [even]
      push_cast
      constructor <;> linarith
    · rw [odd]
      push_cast
      constructor <;> linarith
  · push_cast
    constructor <;> linarith

/-! ### The last place of a result -/

/-- The exponent of the last place of a number whose significand is `m` and exponent `e`. -/
def lastPlace (m : ℕ) (e : ℤ) : ℤ := max (m.log2 + 1 + e - 24) (-149)

theorem targetExponent_eq (m : ℕ) (e : ℤ) :
    Format.binary32.targetExponent (totalExponent m e) = lastPlace m e := rfl

theorem least_le_lastPlace (m : ℕ) (e : ℤ) : -149 ≤ lastPlace m e := le_max_right _ _

/-- A number with enough bits is rounded to a place that is at least its exponent, and
has 24 bits above that place. -/
theorem lastPlace_bounds {m : ℕ} {e : ℤ} {x : ℝ} (hm : (m : ℝ) ≤ x) (hx : x < m + 1)
    (enough : 2 ^ 23 ≤ m ∨ e ≤ -149) :
    e ≤ lastPlace m e ∧ x * 2 ^ e < 2 ^ (lastPlace m e + 24) ∧
      (2 ^ (lastPlace m e + 23) ≤ x * 2 ^ e ∨ lastPlace m e = -149) := by
  have hpos : (0 : ℝ) < 2 ^ e := by positivity
  have upper : x < 2 ^ (m.log2 + 1 : ℤ) := by
    have hlt : m + 1 ≤ 2 ^ (m.log2 + 1) := Nat.lt_log2_self
    have hlt : (m + 1 : ℝ) ≤ 2 ^ (m.log2 + 1) := by exact_mod_cast hlt
    exact hx.trans_le (by exact_mod_cast hlt)
  unfold lastPlace
  refine ⟨?_, ?_, ?_⟩
  · rcases enough with full | low
    · have := (Nat.le_log2 (by omega)).mpr full
      omega
    · omega
  · calc x * 2 ^ e
      _ < 2 ^ (m.log2 + 1 : ℤ) * 2 ^ e := by gcongr
      _ = 2 ^ (m.log2 + 1 + e : ℤ) := (zpow_add₀ (by norm_num) _ _).symm
      _ ≤ _ := zpow_le_zpow_right₀ (by norm_num) (by omega)
  · by_cases low : max ((m.log2 : ℤ) + 1 + e - 24) (-149) = -149
    · exact .inr low
    have nonzero : m ≠ 0 := by
      rintro rfl
      simp only [Nat.log2_zero] at low
      omega
    have lower : (2 : ℝ) ^ (m.log2 : ℤ) ≤ x := by
      have hle := Nat.log2_self_le nonzero
      have hle : (2 : ℝ) ^ m.log2 ≤ m := by exact_mod_cast hle
      exact_mod_cast hle.trans hm
    refine .inl ?_
    calc (2 : ℝ) ^ (max ((m.log2 : ℤ) + 1 + e - 24) (-149) + 23)
      _ = 2 ^ (m.log2 + e : ℤ) := by congr 1; omega
      _ = 2 ^ (m.log2 : ℤ) * 2 ^ e := zpow_add₀ (by norm_num) _ _
      _ ≤ x * 2 ^ e := by gcongr

/-! ### The parts that rounding gives -/

/-- A number with a sign. -/
def signed : Sign → ℝ → ℝ
  | .positive, r => r
  | .negative, r => -r

/-- The real number that finite parts stand for. -/
noncomputable def partsReal : UnpackedFloat → ℝ
  | .finite s m e _ => signed s (scaled m e)
  | _ => 0

/-- The parts are finite, canonical, and those of a real number rounded. -/
structure Rounded (y : UnpackedFloat) (r : ℝ) : Prop where
  finite : y.isFinite = true
  canonical : CanonicalParts y
  rounds : Rounds r (partsReal y)

/-- The parts of a rounded significand: one that has become a bit longer is halved. -/
def carried (s : Sign) (r : ℕ) (T : ℤ) : UnpackedFloat :=
  if h : r = 0 then .zero s
  else if r < 2 ^ 24 then .finite s r T (Nat.pos_of_ne_zero h)
  else .finite s (2 ^ 23) (T + 1) (by norm_num)

/-- The second shift of a rounding is at most the one for the carry. -/
theorem shift_rounded {r : ℕ} {T : ℤ} (hr : r ≤ 2 ^ 24) (least : -149 ≤ T) :
    shiftToTargetExponent .binary32 r T .exact
      = if r < 2 ^ 24 then (⟨r, false, false⟩, T) else (⟨2 ^ 23, false, false⟩, T + 1) := by
  unfold shiftToTargetExponent
  rw [targetExponent_eq]
  unfold lastPlace shiftToExponent
  dsimp only
  by_cases short : r < 2 ^ 24
  · have hlog : r.log2 ≤ 23 := by
      by_cases hz : r = 0
      · simp [hz]
      · have := (Nat.log2_lt hz).mpr short
        omega
    have none : (max ((r.log2 : ℤ) + 1 + T - 24) (-149) - T).toNat = 0 := by omega
    rw [if_pos short, none]
    simp [HShiftRight.hShiftRight, Nat.repeat, ExtendedMantissa.ofMantissaAndAccuracy]
  · obtain rfl : r = 2 ^ 24 := by omega
    have one : (max (((2 ^ 24 : ℕ).log2 : ℤ) + 1 + T - 24) (-149) - T).toNat = 1 := by
      rw [Nat.log2_two_pow]
      omega
    rw [if_neg short, one]
    rfl

/-- The significand of a number that is rounded to its last place. -/
def placed (m : ℕ) (e : ℤ) (acc : Accuracy) : ℕ :=
  (ExtendedMantissa.ofMantissaAndAccuracy m acc >>> (lastPlace m e - e).toNat).roundedMantissa

/-- Rounding in one step: to the last place, and the carry. -/
theorem roundWithAccuracy_eq (s : Sign) {m : ℕ} {e : ℤ} (acc : Accuracy)
    (enough : e ≤ lastPlace m e) (hr : placed m e acc ≤ 2 ^ 24) :
    roundWithAccuracy .binary32 s m e acc = carried s (placed m e acc) (lastPlace m e) := by
  have first : shiftToTargetExponent .binary32 m e acc
      = (ExtendedMantissa.ofMantissaAndAccuracy m acc >>> (lastPlace m e - e).toNat,
        lastPlace m e) := by
    unfold shiftToTargetExponent shiftToExponent
    rw [targetExponent_eq]
    refine Prod.ext rfl ?_
    change e + ((lastPlace m e - e).toNat : ℤ) = lastPlace m e
    omega
  have second := shift_rounded hr (least_le_lastPlace m e)
  unfold placed at hr second
  unfold roundWithAccuracy carried placed
  generalize hem : ExtendedMantissa.ofMantissaAndAccuracy m acc
    >>> (lastPlace m e - e).toNat = em at *
  by_cases short : em.roundedMantissa < 2 ^ 24
  · rw [if_pos short] at second
    simp only [first, second, if_pos short]
  · have nonzero : em.roundedMantissa ≠ 0 := by omega
    rw [if_neg short] at second
    simp only [first, second, if_neg short, dif_neg nonzero]
    rfl

theorem isFinite_carried (s : Sign) (r : ℕ) (T : ℤ) : (carried s r T).isFinite = true := by
  unfold carried
  split
  · rfl
  · split <;> rfl

theorem partsReal_carried (s : Sign) {r : ℕ} {T : ℤ} (hr : r ≤ 2 ^ 24) :
    partsReal (carried s r T) = signed s (scaled r T) := by
  unfold carried
  split
  · rename_i hz
    cases s <;> simp [partsReal, signed, scaled, hz]
  split
  · rfl
  · obtain rfl : r = 2 ^ 24 := by omega
    refine congrArg (signed s) ?_
    unfold scaled
    rw [zpow_add₀ (by norm_num)]
    push_cast
    ring

theorem canonical_carried (s : Sign) {r : ℕ} {T : ℤ} (least : -149 ≤ T) (greatest : T ≤ 103)
    (full : 2 ^ 23 ≤ r ∨ T = -149) : CanonicalParts (carried s r T) := by
  unfold carried
  split
  · trivial
  split
  · rename_i short
    exact ⟨short, least, by omega, full⟩
  · exact ⟨by norm_num, by omega, by omega, .inl le_rfl⟩

/-- Rounding to a nearest natural number does not cross another one. -/
theorem le_of_near {r n : ℕ} {y : ℝ} (near : |(r : ℝ) - y| ≤ 1 / 2) (h : y < n) : r ≤ n := by
  have hlt : (r : ℝ) < n + 1 := by linarith [(abs_le.mp near).2]
  exact Nat.lt_succ_iff.mp (by exact_mod_cast hlt)

theorem ge_of_near {r n : ℕ} {y : ℝ} (near : |(r : ℝ) - y| ≤ 1 / 2) (h : n ≤ y) : n ≤ r := by
  have hlt : (n : ℝ) < r + 1 := by linarith [(abs_le.mp near).1]
  exact Nat.lt_succ_iff.mp (by exact_mod_cast hlt)

theorem eq_units (x : ℝ) {e T : ℤ} (h : e ≤ T) :
    x * 2 ^ e = x / 2 ^ (T - e).toNat * 2 ^ T := by
  have hshift : (2 : ℝ) ^ T = 2 ^ (T - e).toNat * 2 ^ e := by
    rw [← zpow_natCast, ← zpow_add₀ (by norm_num)]
    congr 1
    omega
  rw [hshift]
  field_simp

/-- A nearest natural number in units of the last place. -/
theorem roundsAt_of_near {r : ℕ} {y : ℝ} {T : ℤ} (nonneg : 0 ≤ y)
    (near : |(r : ℝ) - y| ≤ 1 / 2) (least : -149 ≤ T) (upper : y < 2 ^ 24)
    (lower : 2 ^ 23 ≤ y ∨ T = -149) : RoundsAt T (y * 2 ^ T) (scaled r T) := by
  have hpos : (0 : ℝ) < 2 ^ T := by positivity
  have size : |y * 2 ^ T| = y * 2 ^ T := abs_of_nonneg (by positivity)
  refine ⟨least, ?_, ?_, ⟨r, by simp [scaled]⟩, ?_⟩
  · rw [size, add_comm, zpow_add₀ (by norm_num), zpow_ofNat]
    gcongr
  · rw [size, add_comm, zpow_add₀ (by norm_num), zpow_ofNat]
    exact lower.imp_left fun h => by gcongr
  · have hdiff : scaled r T - y * 2 ^ T = (r - y) * 2 ^ T := (sub_mul _ _ _).symm
    rw [hdiff, abs_mul, abs_of_pos hpos]
    calc |(r : ℝ) - y| * 2 ^ T ≤ 1 / 2 * 2 ^ T := by gcongr
      _ = 2 ^ T / 2 := by ring

/-- **The result of a rounding is finite, canonical and a nearest multiple of the last
place.** The exact result is `x * 2^e`, where `x` is located above the significand `m`;
there are enough bits for the 24 of the result, and the result is below `2^127`. -/
theorem rounded_roundWithAccuracy (s : Sign) {m : ℕ} {e : ℤ} {acc : Accuracy} {x : ℝ}
    (located : Locates acc (x - m)) (enough : 2 ^ 23 ≤ m ∨ e ≤ -149)
    (bounded : x * 2 ^ e < 2 ^ 127) :
    Rounded (roundWithAccuracy .binary32 s m e acc) (signed s (x * 2 ^ e)) := by
  obtain ⟨above, below⟩ := located.bounds
  obtain ⟨hT, upper, lower⟩ := lastPlace_bounds (x := x) (by linarith) (by linarith) enough
  have least := least_le_lastPlace m e
  have near : |(placed m e acc : ℝ) - x / 2 ^ (lastPlace m e - e).toNat| ≤ 1 / 2 :=
    ((represents_ofMantissaAndAccuracy located).shiftRight _).near
  have nonneg : 0 ≤ x / 2 ^ (lastPlace m e - e).toNat := by
    have : (0 : ℝ) ≤ m := by positivity
    exact div_nonneg (by linarith) (by positivity)
  have computed := roundWithAccuracy_eq s acc hT
  rw [eq_units x hT] at upper lower bounded ⊢
  -- In units of the last place the exact result is `y`, and it is rounded to `r`.
  generalize placed m e acc = r at *
  generalize x / 2 ^ (lastPlace m e - e).toNat = y at *
  generalize lastPlace m e = T at *
  have hpos : (0 : ℝ) < 2 ^ T := by positivity
  have upper' : y < 2 ^ 24 := by
    rw [add_comm, zpow_add₀ (by norm_num), zpow_ofNat] at upper
    exact lt_of_mul_lt_mul_right upper hpos.le
  have lower' : 2 ^ 23 ≤ y ∨ T = -149 := lower.imp_left fun h => by
    rw [add_comm, zpow_add₀ (by norm_num), zpow_ofNat] at h
    exact le_of_mul_le_mul_right h hpos
  have greatest : T ≤ 103 := by
    rcases lower with h | low
    · have hlt : (2 : ℝ) ^ (T + 23) < 2 ^ (127 : ℤ) := h.trans_lt (by exact_mod_cast bounded)
      have := (zpow_lt_zpow_iff_right₀ (by norm_num : (1 : ℝ) < 2)).mp hlt
      omega
    · omega
  have hr : r ≤ 2 ^ 24 := le_of_near near (by exact_mod_cast upper')
  have full : 2 ^ 23 ≤ r ∨ T = -149 :=
    lower'.imp_left fun h => ge_of_near near (by exact_mod_cast h)
  have rounds : Rounds (y * 2 ^ T) (scaled r T) :=
    ⟨T, roundsAt_of_near nonneg near least upper' lower'⟩
  rw [computed hr]
  refine ⟨isFinite_carried s r T, canonical_carried s least greatest full, ?_⟩
  rw [partsReal_carried s hr]
  cases s
  · exact rounds.neg
  · exact rounds

end DocSieve
