import DocSieve.Proofs.Numeric.Nearest
import DocSieve.Proofs.Numeric.Separation

/-!
# The shortest decimal of a single-precision number

The decimal that is found lies around the magnitude, on a grid next to it. Nine digits
are enough, as the grid of the ninth is finer than the way to the nearest halfway point
(`Magnitude.Short.onGrid?_ne_none`). A decimal that comes close to a halfway point spans the
distance with one step of its grid, so it has few digits (`Magnitude.Short.few`): a long
decimal is never in danger of being taken for the number next door.

Key definitions: `Magnitude.Short`, `Magnitude.Written`.
Key theorems: `Magnitude.Short.scale_spec`, `Magnitude.Short.written_shortest`.
-/

namespace DocSieve

open BinaryFormat

/-! ### Magnitudes of single precision -/

namespace Magnitude

/-- The magnitude is one of single precision, and not zero. -/
structure Short (x : Magnitude) : Prop where
  pos : 0 < x.significand
  lt : x.significand < 2 ^ 24
  least : -149 ≤ x.exponent
  greatest : x.exponent ≤ 104
  narrow : x.narrowBelow = true → x.significand = 2 ^ 23

theorem short_decode {bits : ℕ} (nonzero : bits ≠ 0) (finite : bits < single.infinity) :
    (single.decode bits).Short := by
  obtain ⟨s, k, rfl, short, full⟩ := single.exists_eq_mul_add bits
  have bound : k * 2 ^ 23 + s < 255 * 2 ^ 23 := finite
  have nonzero : k * 2 ^ 23 + s ≠ 0 := nonzero
  have full' : 2 ^ 23 ≤ s ∨ k = 0 := full
  have short' : s < 2 ^ 24 := short
  have least : single.leastExponent = -149 := by decide
  rw [single.decode_eq short full, least]
  refine ⟨?_, short, ?_, ?_, fun narrow => ?_⟩
  · show 0 < s
    omega
  · show -149 ≤ -149 + (k : ℤ)
    omega
  · show -149 + (k : ℤ) ≤ 104
    omega
  · simp only [Bool.and_eq_true, beq_iff_eq] at narrow
    exact narrow.1

variable {x : Magnitude}

theorem real_pos (pos : 0 < x.significand) : 0 < x.real := scaled_pos pos _

theorem lower_lt_real (pos : 0 < x.significand) : x.lower < x.real := by
  have reach := x.quarter_le_reach
  rw [x.lower_eq pos, real, scaled]
  gcongr
  linarith

theorem real_lt_upper (x : Magnitude) : x.real < x.upper := by
  rw [x.upper_eq, real, scaled]
  gcongr
  linarith

/-- A number on the lower side is around the magnitude unless it is halfway down or more. -/
theorem around_of_le {r : ℝ} (above : x.lower < r) (le : r ≤ x.real) : x.Around r :=
  ⟨.inl above, .inl (le.trans_lt x.real_lt_upper)⟩

theorem around_of_ge (pos : 0 < x.significand) {r : ℝ} (below : r < x.upper) (ge : x.real ≤ r) :
    x.Around r :=
  ⟨.inl ((lower_lt_real pos).trans_le ge), .inl below⟩

/-! ### The scale -/

theorem above_iff (k : ℤ) : (Decimal.compareBinary ⟨1, k⟩ x.significand x.exponent == .gt) = true
    ↔ x.real < 10 ^ k := by
  rw [beq_iff_eq, Decimal.compareBinary_eq_gt, Decimal.real, Nat.cast_one, one_mul]
  rfl

/-- The guess of the decimal logarithm from the binary one is at most one below or two above. -/
theorem guess_spec : ∀ i : Fin 277,
    let z : ℤ := i - 149
    let guess := z * 30103 / 100000
    10 ^ (guess - 1).toNat * 2 ^ (-z).toNat ≤ 2 ^ z.toNat * 10 ^ (-(guess - 1)).toNat ∧
    2 ^ (z + 1).toNat * 10 ^ (-(guess + 2)).toNat
      ≤ 10 ^ (guess + 2).toNat * 2 ^ (-(z + 1)).toNat := by
  decide +kernel

theorem zpow_le_zpow_of_nat {a b : ℕ} (ha : 0 < a) (hb : 0 < b) {m n : ℤ}
    (h : a ^ m.toNat * b ^ (-n).toNat ≤ b ^ n.toNat * a ^ (-m).toNat) : (a : ℝ) ^ m ≤ b ^ n := by
  have ha' : (a : ℝ) ≠ 0 := by exact_mod_cast ha.ne'
  have hb' : (b : ℝ) ≠ 0 := by exact_mod_cast hb.ne'
  rw [zpow_eq_div ha', zpow_eq_div hb', div_le_div_iff₀ (by positivity) (by positivity)]
  exact_mod_cast h

namespace Short

theorem log_bounds (h : x.Short) : (2 : ℝ) ^ (x.significand.log2 + x.exponent) ≤ x.real ∧
    x.real < 2 ^ (x.significand.log2 + x.exponent + 1) := by
  have lower : (2 : ℝ) ^ x.significand.log2 ≤ x.significand := by
    exact_mod_cast Nat.log2_self_le h.pos.ne'
  have upper : (x.significand : ℝ) < 2 ^ (x.significand.log2 + 1) := by
    exact_mod_cast Nat.lt_log2_self (n := x.significand)
  constructor
  · rw [zpow_add₀ two_ne_zero, zpow_natCast, real, scaled]
    gcongr
  · rw [add_right_comm, zpow_add₀ two_ne_zero, ← Nat.cast_succ, zpow_natCast, real, scaled]
    gcongr

/-- The scale is the least power of ten above the magnitude. -/
theorem scale_spec (h : x.Short) : (10 : ℝ) ^ (x.scale - 1) ≤ x.real ∧ x.real < 10 ^ x.scale := by
  obtain ⟨lower, upper⟩ := h.log_bounds
  have log : x.significand.log2 ≤ 23 :=
    Nat.lt_succ_iff.mp ((Nat.log2_lt h.pos.ne').mpr h.lt)
  have least := h.least
  have greatest := h.greatest
  obtain ⟨i, hi⟩ : ∃ i : Fin 277, (i : ℤ) - 149 = x.significand.log2 + x.exponent :=
    ⟨⟨(x.significand.log2 + x.exponent + 149).toNat, by omega⟩, by simp; omega⟩
  have guess := guess_spec i
  rw [hi] at guess
  have under : (10 : ℝ) ^ (x.logGuess - 1) ≤ x.real := by
    refine le_trans ?_ lower
    exact_mod_cast zpow_le_zpow_of_nat (a := 10) (b := 2) (by norm_num) (by norm_num) guess.1
  have above : x.real < 10 ^ (x.logGuess + 2) := by
    refine upper.trans_le ?_
    exact_mod_cast zpow_le_zpow_of_nat (a := 2) (b := 10) (by norm_num) (by norm_num) guess.2
  unfold scale
  dsimp only
  simp only [above_iff]
  split_ifs with first second
  · exact ⟨under, first⟩
  · exact ⟨by rw [add_sub_cancel_right]; exact not_lt.mp first, second⟩
  · refine ⟨?_, above⟩
    rw [show x.logGuess + 2 - 1 = x.logGuess + 1 by ring]
    exact not_lt.mp second

end Short

/-! ### Neighbours on a grid -/

/-- The magnitude lies on or above one point of a grid, and below the next one. -/
theorem floorOn_spec (x : Magnitude) (exponent : ℤ) :
    (x.floorOn exponent : ℝ) * 10 ^ exponent ≤ x.real ∧
      x.real < (x.floorOn exponent + 1) * 10 ^ exponent := by
  have two : (0 : ℝ) < 2 ^ (-x.exponent).toNat := by positivity
  have ten : (0 : ℝ) < 10 ^ exponent.toNat := by positivity
  have grid : (0 : ℝ) < 10 ^ exponent := by positivity
  have quotient : x.real / 10 ^ exponent
      = (x.significand * 2 ^ x.exponent.toNat * 10 ^ (-exponent).toNat : ℕ)
        / (2 ^ (-x.exponent).toNat * 10 ^ exponent.toNat : ℕ) := by
    rw [real, scaled, zpow_eq_div two_ne_zero, zpow_eq_div (by norm_num : (10 : ℝ) ≠ 0)]
    push_cast
    field_simp
  have floor : x.floorOn exponent = ⌊x.real / 10 ^ exponent⌋₊ := by
    rw [quotient, Nat.floor_div_eq_div]
    rfl
  rw [← le_div_iff₀ grid, ← div_lt_iff₀ grid, floor]
  have nonneg : 0 ≤ x.real := by unfold real scaled; positivity
  exact ⟨Nat.floor_le (div_nonneg nonneg grid.le), Nat.lt_floor_add_one _⟩

/-- The decimal is a neighbour of the magnitude on its grid, and no farther away than the
other one, unless the other one is not around the magnitude. -/
inductive Beside (x : Magnitude) (d : Decimal) : Prop
  | under (le : d.real ≤ x.real)
      (other : 2 * (x.real - d.real) ≤ 10 ^ d.exponent ∨ x.upper ≤ d.real + 10 ^ d.exponent)
  | above (ge : x.real ≤ d.real)
      (other : 2 * (d.real - x.real) ≤ 10 ^ d.exponent ∨ d.real - 10 ^ d.exponent ≤ x.lower)

/-- Which of the two neighbours is taken. -/
theorem onGrid?_cases {x : Magnitude} {tie : Tie} {exponent : ℤ} {d : Decimal}
    (found : x.onGrid? tie exponent = some d) :
    let low : Decimal := ⟨x.floorOn exponent, exponent⟩
    let high : Decimal := ⟨x.floorOn exponent + 1, exponent⟩
    (d = low ∧ x.readsBack low = true ∧
      (x.readsBack high = false ∨ 2 * x.real ≤ low.real + high.real)) ∨
    (d = high ∧ x.readsBack high = true ∧
      (x.readsBack low = false ∨ low.real + high.real ≤ 2 * x.real)) := by
  intro low high
  have middle : (Decimal.real ⟨2 * x.floorOn exponent + 1, exponent⟩) = low.real + high.real := by
    simp only [Decimal.real, low, high]
    push_cast
    ring
  have twice : scaled (2 * x.significand) x.exponent = 2 * x.real := by
    rw [real, scaled, scaled]
    push_cast
    ring
  unfold onGrid? at found
  dsimp only at found
  split at found
  · cases found
  · cases found
    exact .inl ⟨rfl, ‹_›, .inl ‹_›⟩
  · cases found
    exact .inr ⟨rfl, ‹_›, .inl ‹_›⟩
  · split at found
    · next compared =>
      rw [Decimal.compareBinary_eq_lt, middle, twice] at compared
      cases found
      exact .inr ⟨rfl, ‹_›, .inr compared.le⟩
    · next compared =>
      rw [Decimal.compareBinary_eq_gt, middle, twice] at compared
      cases found
      exact .inl ⟨rfl, ‹_›, .inr compared.le⟩
    · next compared =>
      rw [Decimal.compareBinary_eq_eq, middle, twice] at compared
      cases tie with
      | up =>
        cases found
        exact .inr ⟨rfl, ‹_›, .inr compared.le⟩
      | even =>
        cases found
        split
        · exact .inl ⟨rfl, ‹_›, .inr compared.ge⟩
        · exact .inr ⟨rfl, ‹_›, .inr compared.le⟩

/-- What is found on a grid is around the magnitude and beside it. -/
theorem onGrid?_spec {x : Magnitude} (pos : 0 < x.significand) {tie : Tie} {exponent : ℤ}
    {d : Decimal} (found : x.onGrid? tie exponent = some d) : x.Around d.real ∧ x.Beside d ∧
      d.exponent = exponent ∧ d.digits ≤ x.floorOn exponent + 1 := by
  obtain ⟨under, above⟩ := x.floorOn_spec exponent
  have next : Decimal.real ⟨x.floorOn exponent + 1, exponent⟩
      = Decimal.real ⟨x.floorOn exponent, exponent⟩ + 10 ^ exponent := by
    simp only [Decimal.real]
    push_cast
    ring
  have under : Decimal.real ⟨x.floorOn exponent, exponent⟩ ≤ x.real := under
  have above : x.real < Decimal.real ⟨x.floorOn exponent + 1, exponent⟩ := by
    rw [Decimal.real]
    exact_mod_cast above
  have cases := onGrid?_cases found
  dsimp only at cases
  simp only [readsBack_iff, ← Bool.not_eq_true] at cases
  obtain ⟨rfl, around, other⟩ | ⟨rfl, around, other⟩ := cases
  · refine ⟨around, .under under ?_, rfl, Nat.le_succ _⟩
    rw [next] at other above
    rcases other with out | near
    · exact .inr (not_lt.mp fun inside => out (around_of_ge pos inside above.le))
    · exact .inl (by linarith)
  · refine ⟨around, .above above.le ?_, rfl, le_rfl⟩
    rcases other with out | near
    · exact .inr (not_lt.mp fun inside => out (around_of_le (by linarith) under))
    · exact .inl (by linarith)

/-! ### Few digits near the ends -/

/-- The ends of what is around a magnitude are not far from zero, in units. -/
theorem Around.le_units {x : Magnitude} {r : ℝ} (around : x.Around r) :
    r ≤ (x.significand + 1 / 2) * 2 ^ x.exponent := by
  rw [← x.upper_eq]
  rcases around.2 with less | ⟨equal, -⟩
  · exact less.le
  · exact equal.le

/-- A decimal that is close to an end has a step that spans the distance to the magnitude
twice, but for a little. -/
theorem Short.step_le_of_close {x : Magnitude} (h : x.Short) {d : Decimal}
    (around : x.Around d.real) (beside : x.Beside d)
    (close : Close d.real x.lower ∨ Close d.real x.upper) :
    (2 * x.reach - 1 / 2 ^ 26) * 2 ^ x.exponent ≤ 10 ^ d.exponent := by
  have unit : (0 : ℝ) < 2 ^ x.exponent := by positivity
  have short : (x.significand : ℝ) + 1 ≤ 2 ^ 24 := by exact_mod_cast h.lt
  have bound := around.le_units
  have most : d.real ≤ 2 ^ 24 * 2 ^ x.exponent := by
    refine bound.trans ?_
    gcongr
    linarith
  have near {w : ℝ} (close : Close d.real w) : |d.real - w| ≤ 2 ^ x.exponent / 2 ^ 27 := by
    linarith [close.le]
  have upper := x.upper_eq
  have lower := x.lower_eq h.pos
  have value : x.real = x.significand * 2 ^ x.exponent := rfl
  have shortest : 2 ^ x.exponent / 4 ≤ x.reach * 2 ^ x.exponent := by
    rw [div_eq_inv_mul]
    gcongr
    exact le_of_eq_of_le (by norm_num) x.quarter_le_reach
  have longest : x.reach * 2 ^ x.exponent ≤ 2 ^ x.exponent / 2 := by
    rw [div_eq_inv_mul]
    gcongr
    exact x.reach_le.trans (by norm_num)
  rw [add_mul] at upper
  rw [sub_mul] at lower ⊢
  rw [mul_assoc]
  rcases close with close | close
  · obtain ⟨above, below⟩ := abs_le.mp (near close)
    rcases beside with ⟨-, half | out⟩ | ⟨ge, -⟩ <;> linarith
  · obtain ⟨above, below⟩ := abs_le.mp (near close)
    rcases beside with ⟨le, -⟩ | ⟨-, half | out⟩ <;> linarith

/-- **A decimal that is close to an end has few digits.** -/
theorem Short.few {x : Magnitude} (h : x.Short) {d : Decimal}
    (around : x.Around d.real) (beside : x.Beside d)
    (close : Close d.real x.lower ∨ Close d.real x.upper) : d.digits ≤ 2 ^ 24 + 2 := by
  have step := h.step_le_of_close around beside close
  have bound := around.le_units
  have unit : (0 : ℝ) < 2 ^ x.exponent := by positivity
  have short : (x.significand : ℝ) + 1 ≤ 2 ^ 24 := by exact_mod_cast h.lt
  by_contra many
  have many : (2 ^ 24 + 3 : ℝ) ≤ d.digits := by
    have many : 2 ^ 24 + 3 ≤ d.digits := by omega
    exact_mod_cast many
  have total : (2 ^ 24 + 3) * ((2 * x.reach - 1 / 2 ^ 26) * 2 ^ x.exponent)
      ≤ (x.significand + 1 / 2) * 2 ^ x.exponent := by
    refine le_trans ?_ bound
    have step_pos : 0 ≤ (2 * x.reach - 1 / 2 ^ 26) * 2 ^ x.exponent :=
      mul_nonneg (by linarith [x.quarter_le_reach]) unit.le
    rw [Decimal.real]
    gcongr
  rw [← mul_assoc, mul_le_mul_iff_left₀ unit] at total
  rw [Magnitude.reach_eq] at total
  split_ifs at total with narrow
  · rw [h.narrow narrow] at total
    push_cast at total
    linarith
  · linarith

/-! ### Nine digits are enough -/

/-- A grid that is finer than the way to the nearest end has a point around the magnitude. -/
theorem onGrid?_ne_none {x : Magnitude} {tie : Tie} {exponent : ℤ}
    (fine : 10 ^ exponent ≤ x.real - x.lower) : x.onGrid? tie exponent ≠ none := by
  obtain ⟨under, above⟩ := x.floorOn_spec exponent
  have reads : x.readsBack ⟨x.floorOn exponent, exponent⟩ = true := by
    rw [readsBack_iff]
    exact around_of_le (by rw [Decimal.real]; linarith) under
  intro none
  unfold onGrid? at none
  dsimp only at none
  split at none
  · simp_all
  · cases none
  · cases none
  · split at none
    · cases none
    · cases none
    · cases tie <;> cases none

/-- The grid of the ninth digit is fine enough. -/
theorem Short.fine {x : Magnitude} (h : x.Short) :
    (10 : ℝ) ^ (x.scale - 9) ≤ x.real - x.lower := by
  have unit : (0 : ℝ) < 2 ^ x.exponent := by positivity
  have short : (x.significand : ℝ) ≤ 2 ^ 24 := by exact_mod_cast h.lt.le
  have reach : x.significand ≤ 2 ^ 25 * x.reach := by
    rw [Magnitude.reach_eq]
    split_ifs with narrow
    · rw [h.narrow narrow]
      norm_num
    · linarith
  have scale := h.scale_spec.1
  calc (10 : ℝ) ^ (x.scale - 9)
    _ = 10 ^ (x.scale - 1) / 10 ^ 8 := by
      rw [show x.scale - 9 = x.scale - 1 - 8 by ring, zpow_sub₀ (by norm_num)]
      norm_num
    _ ≤ x.real / 2 ^ 25 :=
      div_le_div₀ (real_pos h.pos).le scale (by norm_num) (by norm_num)
    _ = x.significand / 2 ^ 25 * 2 ^ x.exponent := by
      rw [Magnitude.real, scaled]
      ring
    _ ≤ x.reach * 2 ^ x.exponent := by
      gcongr
      rw [div_le_iff₀ (by norm_num)]
      linarith
    _ = x.real - x.lower := by
      rw [x.lower_eq h.pos, Magnitude.real, scaled]
      ring

theorem Short.exists_found {x : Magnitude} (h : x.Short) (tie : Tie) :
    ∃ n ≤ 8, ∃ d, x.onGrid? tie (x.scale - (n + 1 : ℕ)) = some d ∧
      x.shortest tie = d.stripZeros := by
  have ninth : x.onGrid? tie (x.scale - (8 + 1 : ℕ)) ≠ none := onGrid?_ne_none h.fine
  cases found : (List.range 17).findSome? fun n => x.onGrid? tie (x.scale - (n + 1 : ℕ)) with
  | none => exact absurd (List.findSome?_eq_none_iff.mp found 8 (by decide)) ninth
  | some d =>
    obtain ⟨before, n, after, range, some, none⟩ := List.findSome?_eq_some_iff.mp found
    refine ⟨n, ?_, d, some, by rw [shortest, found]; rfl⟩
    -- The ninth grid is not one of those before, where nothing was found.
    by_contra late
    have mem : 8 ∈ before ++ n :: after := range ▸ (by decide)
    have sorted : (before ++ n :: after).Pairwise (· < ·) := range ▸ List.pairwise_lt_range
    rcases List.mem_append.mp mem with earlier | later
    · exact ninth (none 8 earlier)
    · rcases List.mem_cons.mp later with rfl | later
      · omega
      · have := (List.pairwise_cons.mp (List.pairwise_append.mp sorted).2.1).1 8 later
        omega

end Magnitude

/-- Without trailing zeros a decimal has the same value, and no more digits. -/
theorem Decimal.stripZeros_spec (d : Decimal) : d.stripZeros.real = d.real ∧
    d.stripZeros.digits ≤ d.digits ∧ d.exponent ≤ d.stripZeros.exponent := by
  fun_induction stripZeros d with
  | case1 d zero ih =>
    obtain ⟨value, digits, exponent⟩ := ih
    have tenth : (d.digits : ℝ) = (d.digits / 10 : ℕ) * 10 := by
      exact_mod_cast (Nat.div_mul_cancel (Nat.dvd_of_mod_eq_zero zero.2)).symm
    refine ⟨value.trans ?_, digits.trans (Nat.div_le_self _ _), by dsimp only at exponent; omega⟩
    simp only [real]
    rw [zpow_add_one₀ (by norm_num), tenth]
    ring
  | case2 d done => exact ⟨rfl, le_rfl, le_rfl⟩

namespace Magnitude

/-- What is known of the decimal that is written for a magnitude. -/
structure Written (x : Magnitude) (d : Decimal) : Prop where
  around : x.Around d.real
  pos : 0 < d.digits
  digits_le : d.digits ≤ 10 ^ 9
  least : -53 ≤ d.exponent
  greatest : d.exponent ≤ 38
  few : Close d.real x.lower ∨ Close d.real x.upper → d.digits ≤ 2 ^ 24 + 2

theorem Around.real_pos {x : Magnitude} (pos : 0 < x.significand) {r : ℝ} (around : x.Around r) :
    0 < r := by
  have lower : 0 < x.lower := by
    have one : (1 : ℝ) ≤ x.significand := by exact_mod_cast pos
    rw [x.lower_eq pos]
    exact mul_pos (by linarith [x.reach_le]) (by positivity)
  rcases around.1 with less | ⟨equal, -⟩
  · exact lower.trans less
  · exact equal ▸ lower

theorem Short.least_scale {x : Magnitude} (h : x.Short) : -44 ≤ x.scale := by
  have least : (2 : ℝ) ^ (-149 : ℤ) ≤ x.real := by
    have one : (1 : ℝ) ≤ x.significand := by exact_mod_cast h.pos
    calc (2 : ℝ) ^ (-149 : ℤ) ≤ 2 ^ x.exponent := zpow_le_zpow_right₀ one_le_two h.least
      _ ≤ x.real := le_mul_of_one_le_left (by positivity) one
  have power : (10 : ℝ) ^ (-45 : ℤ) < 10 ^ x.scale :=
    lt_of_lt_of_le (by norm_num) (least.trans h.scale_spec.2.le)
  have := (zpow_lt_zpow_iff_right₀ (by norm_num)).mp power
  omega

/-- **The shortest decimal is around the magnitude, has at most nine digits, and only few
of them if it is close to an end.** -/
theorem Short.written_shortest {x : Magnitude} (h : x.Short) (tie : Tie) :
    x.Written (x.shortest tie) := by
  obtain ⟨n, hn, d, found, shortest⟩ := h.exists_found tie
  obtain ⟨around, beside, exponent, digits⟩ := onGrid?_spec h.pos found
  obtain ⟨value, fewer, finer⟩ := d.stripZeros_spec
  rw [shortest]
  have around' : x.Around d.stripZeros.real := value ▸ around
  have pos : 0 < d.stripZeros.digits := by
    refine Nat.pos_of_ne_zero fun zero => ?_
    have := around'.real_pos h.pos
    simp [Decimal.real, zero] at this
  have least := h.least_scale
  refine ⟨around', pos, fewer.trans (digits.trans ?_), by omega, ?_, fun close => ?_⟩
  · -- The magnitude is below the power of ten that its scale says.
    obtain ⟨under, -⟩ := x.floorOn_spec (x.scale - (n + 1 : ℕ))
    have below : (x.floorOn (x.scale - (n + 1 : ℕ)) : ℝ) < 10 ^ (n + 1) := by
      rw [← mul_lt_mul_iff_left₀ (by positivity : (0 : ℝ) < 10 ^ (x.scale - (n + 1 : ℕ))),
        ← zpow_natCast, ← zpow_add₀ (by norm_num), add_sub_cancel]
      exact under.trans_lt h.scale_spec.2
    have below : x.floorOn (x.scale - (n + 1 : ℕ)) < 10 ^ (n + 1) := by exact_mod_cast below
    exact below.trans_le (Nat.pow_le_pow_right (by norm_num) (by omega))
  · have one : (1 : ℝ) ≤ d.stripZeros.digits := by exact_mod_cast pos
    have short : (x.significand : ℝ) + 1 ≤ 2 ^ 24 := by exact_mod_cast h.lt
    have power : (10 : ℝ) ^ d.stripZeros.exponent < 10 ^ (39 : ℤ) := by
      calc (10 : ℝ) ^ d.stripZeros.exponent
        _ ≤ d.stripZeros.real := le_mul_of_one_le_left (by positivity) one
        _ ≤ (x.significand + 1 / 2) * 2 ^ x.exponent := around'.le_units
        _ ≤ 2 ^ 24 * 2 ^ (104 : ℤ) := by
          gcongr
          · linarith
          · norm_num
          · exact h.greatest
        _ < 10 ^ (39 : ℤ) := by norm_num
    have := (zpow_lt_zpow_iff_right₀ (by norm_num)).mp power
    omega
  · rw [value] at close
    exact fewer.trans (h.few around beside close)

end Magnitude

end DocSieve
