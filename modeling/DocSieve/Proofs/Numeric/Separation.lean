import Mathlib

/-!
# Short decimals keep off short binary numbers

A decimal `d * 10^e` and a binary number `m * 2^s` with few digits are equal or some way
apart (`eq_of_close`). Up to powers of two this is a question about the multiples of one
ratio `a / b`, which is `5^e` brought between one and two: `d * a` must not come close to
`m * b`. One good approximation `p / q` of the ratio answers it, for

`b * (d * p - m * q) = d * (p * b - q * a) + q * (d * a - m * b)`

is less than `b` in magnitude, so that `d * p = m * q` and the pair is a multiple of `q`
and `p` (`Isolates.eq_mul`); what is left is to look at this one pair. The approximations
are convergents, but nothing depends on that: each is checked.

Key definitions: `Isolates`, `Excludes`, `Close`.
Key theorems: `Isolates.eq_mul`, `eq_of_close`.
-/

namespace DocSieve

/-! ### One ratio -/

/-- The number without its factors of two, for numbers that have not too many. -/
def oddPart (n : ℕ) : ℕ := n / n.gcd (2 ^ 64)

/-- `p / q` is so close to `a / b` that only its multiples come close, with a denominator
up to `2^25`. -/
def Isolates (a b p q : ℕ) : Prop :=
  p.Coprime q ∧
    2 ^ 25 * (((p * b : ℤ) - q * a).natAbs * 2 ^ 72 + q * (2 ^ 20 + 1) * a) < b * 2 ^ 72

/-- `p / q` is equal to `a / b`, or not close to it, or its terms are too large. -/
def Excludes (a b p q : ℕ) : Prop :=
  p * b = q * a ∨
  (2 ^ 20 + 1) * (q * a) < ((p * b : ℤ) - q * a).natAbs * 2 ^ 72 ∨
  ((oddPart q).Coprime 2 ∧ 2 ^ 24 + 2 < oddPart q) ∨
  ((oddPart p).Coprime 2 ∧ 2 ^ 25 ≤ oddPart p)

instance (a b p q : ℕ) : Decidable (Isolates a b p q) := by
  unfold Isolates
  infer_instance

instance (a b p q : ℕ) : Decidable (Excludes a b p q) := by
  unfold Excludes
  infer_instance

variable {a b p q d m : ℕ}

/-- Only multiples of a good approximation come close. Close are numbers with a relative
distance up to `n / u`. -/
theorem exists_eq_mul {N n u : ℕ} (coprime : p.Coprime q)
    (small : N * (((p * b : ℤ) - q * a).natAbs * u + q * n * a) < b * u) (hd : 0 < d) (hN : d ≤ N)
    (close : ((d * a : ℤ) - m * b).natAbs * u ≤ n * (d * a)) : ∃ k, d = k * q ∧ m = k * p := by
  have cross : (b : ℤ) * (d * p - m * q) = d * (p * b - q * a) + q * (d * a - m * b) := by ring
  have bound : b * u * ((d * p : ℤ) - m * q).natAbs < b * u * 1 := by
    calc b * u * ((d * p : ℤ) - m * q).natAbs
      _ = ((b : ℤ) * (d * p - m * q)).natAbs * u := by
        rw [Int.natAbs_mul, Int.natAbs_natCast]
        ring
      _ ≤ (((d : ℤ) * (p * b - q * a)).natAbs + ((q : ℤ) * (d * a - m * b)).natAbs) * u := by
        rw [cross]
        gcongr
        exact Int.natAbs_add_le _ _
      _ = d * (((p * b : ℤ) - q * a).natAbs * u) + q * (((d * a : ℤ) - m * b).natAbs * u) := by
        rw [Int.natAbs_mul, Int.natAbs_mul, Int.natAbs_natCast, Int.natAbs_natCast]
        ring
      _ ≤ d * (((p * b : ℤ) - q * a).natAbs * u) + q * (n * (d * a)) := by gcongr
      _ = d * (((p * b : ℤ) - q * a).natAbs * u + q * n * a) := by ring
      _ ≤ N * (((p * b : ℤ) - q * a).natAbs * u + q * n * a) := by gcongr
      _ < b * u * 1 := by rwa [Nat.mul_one]
  have zero : (d * p : ℤ) - m * q = 0 :=
    Int.natAbs_eq_zero.mp (Nat.lt_one_iff.mp (Nat.lt_of_mul_lt_mul_left bound))
  have same : d * p = m * q := by exact_mod_cast sub_eq_zero.mp zero
  obtain ⟨k, rfl⟩ : q ∣ d := coprime.symm.dvd_of_dvd_mul_right (Dvd.intro_left m same.symm)
  have pos : 0 < q := Nat.pos_of_mul_pos_right hd
  exact ⟨k, Nat.mul_comm q k, Nat.eq_of_mul_eq_mul_right pos (by rw [← same]; ring)⟩

/-- **Only multiples of the approximation come close.** -/
theorem Isolates.eq_mul (h : Isolates a b p q) (hd : 0 < d) (hd' : d ≤ 2 ^ 25)
    (close : ((d * a : ℤ) - m * b).natAbs * 2 ^ 72 ≤ (2 ^ 20 + 1) * (d * a)) :
    ∃ k, d = k * q ∧ m = k * p :=
  exists_eq_mul h.1 h.2 hd hd' close

theorem oddPart_dvd (n : ℕ) : oddPart n ∣ n := Nat.div_dvd_of_dvd (Nat.gcd_dvd_left _ _)

theorem oddPart_dvd_of_mul {n c i : ℕ} (coprime : (oddPart n).Coprime 2) (h : n ∣ c * 2 ^ i) :
    oddPart n ∣ c :=
  (coprime.pow_right i).dvd_of_dvd_mul_right ((oddPart_dvd n).trans h)

/-- The one pair that could come close does not, or is equal. -/
theorem Excludes.eq (h : Excludes a b p q) {k i j : ℕ} (hd : 0 < d) (hd' : d ≤ 2 ^ 24 + 2)
    (hm : 0 < m) (hm' : m < 2 ^ 25) (first : d * 2 ^ i = k * q) (second : m * 2 ^ j = k * p)
    (close : (((d * 2 ^ i : ℕ) * a : ℤ) - (m * 2 ^ j : ℕ) * b).natAbs * 2 ^ 72
      ≤ (2 ^ 20 + 1) * (d * 2 ^ i * a)) : d * 2 ^ i * a = m * 2 ^ j * b := by
  rw [first, second] at close ⊢
  rcases h with equal | far | ⟨odd, large⟩ | ⟨odd, large⟩
  · rw [Nat.mul_assoc, Nat.mul_assoc, equal]
  · have pos : 0 < k := Nat.pos_of_mul_pos_right (first ▸ Nat.mul_pos hd (Nat.two_pow_pos i))
    have scaled : ((k * q : ℕ) * a : ℤ) - (k * p : ℕ) * b = -(k * (p * b - q * a)) := by
      push_cast
      ring
    rw [scaled, Int.natAbs_neg, Int.natAbs_mul, Int.natAbs_natCast] at close
    have close : k * (((p * b : ℤ) - q * a).natAbs * 2 ^ 72) ≤ k * ((2 ^ 20 + 1) * (q * a)) := by
      linarith
    exact absurd far (Nat.le_of_mul_le_mul_left close pos).not_gt
  · have := Nat.le_of_dvd hd (oddPart_dvd_of_mul odd (Dvd.intro_left k first.symm))
    omega
  · have := Nat.le_of_dvd hm (oddPart_dvd_of_mul odd (Dvd.intro_left k second.symm))
    omega

/-! ### Powers of five -/

/-- The convergents of `a / b` from the last two on. -/
def convergents : (fuel a b p q p' q' : ℕ) → List (ℕ × ℕ)
  | 0, _, _, _, _, _, _ => []
  | fuel + 1, a, b, p, q, p', q' =>
    if b = 0 then []
    else (a / b * p + p', a / b * q + q')
      :: convergents fuel b (a % b) (a / b * p + p') (a / b * q + q') p q

/-- A power of five, brought between one and two, as a ratio. -/
def fiveRatio (e : ℤ) : ℕ × ℕ :=
  if 0 ≤ e then (5 ^ e.toNat, 2 ^ (5 ^ e.toNat).log2)
  else (2 ^ ((5 ^ (-e).toNat).log2 + 1), 5 ^ (-e).toNat)

/-- The exponent of two that was taken from a power of five. -/
def fiveShift (e : ℤ) : ℤ :=
  if 0 ≤ e then (5 ^ e.toNat).log2 else -((5 ^ (-e).toNat).log2 + 1)

/-- `p / q` settles the power of five. -/
def Settles (e : ℤ) (pair : ℕ × ℕ) : Prop :=
  Isolates (fiveRatio e).1 (fiveRatio e).2 pair.1 pair.2 ∧
    Excludes (fiveRatio e).1 (fiveRatio e).2 pair.1 pair.2

instance (e : ℤ) (pair : ℕ × ℕ) : Decidable (Settles e pair) := by
  unfold Settles
  infer_instance

/-- Each power of five in range but one has a convergent that settles it. -/
theorem exists_settles : ∀ i : Fin 92, i ≠ 21 →
    ∃ pair ∈ convergents 80 (fiveRatio (i - 53)).1 (fiveRatio (i - 53)).2 1 0 0 1,
      Settles (i - 53) pair := by
  decide +kernel

theorem fiveRatio_spec (e : ℤ) : 0 < (fiveRatio e).2 ∧ (fiveRatio e).2 ≤ (fiveRatio e).1 ∧
    (5 : ℝ) ^ e = (fiveRatio e).1 / (fiveRatio e).2 * 2 ^ fiveShift e := by
  unfold fiveRatio fiveShift
  split_ifs with nonneg
  · obtain ⟨n, rfl⟩ := Int.eq_ofNat_of_zero_le nonneg
    refine ⟨by positivity, Nat.log2_self_le (by positivity), ?_⟩
    rw [Int.toNat_natCast, zpow_natCast, zpow_natCast]
    push_cast
    field_simp
  · obtain ⟨n, rfl⟩ := Int.exists_eq_neg_ofNat (not_le.mp nonneg).le
    refine ⟨by positivity, ?_, ?_⟩
    · exact (Nat.lt_log2_self (n := 5 ^ (- -(n : ℤ)).toNat)).le
    · rw [neg_neg, Int.toNat_natCast, zpow_neg, zpow_neg, zpow_natCast, ← Nat.cast_succ,
        zpow_natCast]
      push_cast
      field_simp

/-! ### Decimals -/

/-- The numbers are so close that reading one could come to the other. -/
structure Close (v w : ℝ) : Prop where
  le : |v - w| * 2 ^ 72 ≤ (2 ^ 20 + 1) * v

/-- A decimal and a binary number that are close, as multiples of one ratio. -/
theorem Close.exists_mul {d m : ℕ} {e s : ℤ} (close : Close (d * 10 ^ e) (m * 2 ^ s)) :
    ∃ i j : ℕ, (i = 0 ∨ j = 0) ∧
      (((d * 2 ^ i : ℕ) * (fiveRatio e).1 : ℤ) - (m * 2 ^ j : ℕ) * (fiveRatio e).2).natAbs * 2 ^ 72
        ≤ (2 ^ 20 + 1) * (d * 2 ^ i * (fiveRatio e).1) ∧
      (d * 2 ^ i * (fiveRatio e).1 = m * 2 ^ j * (fiveRatio e).2 →
        (d * 10 ^ e : ℝ) = m * 2 ^ s) := by
  obtain ⟨pos, -, five⟩ := fiveRatio_spec e
  generalize (fiveRatio e).1 = a at *
  generalize (fiveRatio e).2 = b at *
  generalize fiveShift e = t at *
  obtain ⟨i, j, r, zero, hi, hj⟩ : ∃ (i j : ℕ) (r : ℤ),
      (i = 0 ∨ j = 0) ∧ t + e = i + r ∧ s = j + r :=
    ⟨(t + e - min (t + e) s).toNat, (s - min (t + e) s).toNat, min (t + e) s,
      by omega, by omega, by omega⟩
  have hb : (0 : ℝ) < b := by exact_mod_cast pos
  have unit : (0 : ℝ) < 2 ^ r / b := by positivity
  have left : (d * 10 ^ e : ℝ) = (d * 2 ^ i : ℕ) * a * (2 ^ r / b) := by
    rw [show (10 : ℝ) = 5 * 2 by norm_num, mul_zpow, five, mul_assoc (_ / _ : ℝ),
      ← zpow_add₀ two_ne_zero, hi, zpow_add₀ two_ne_zero, zpow_natCast]
    push_cast
    ring
  have right : (m * 2 ^ s : ℝ) = (m * 2 ^ j : ℕ) * b * (2 ^ r / b) := by
    rw [hj, zpow_add₀ two_ne_zero, zpow_natCast]
    push_cast
    field_simp
  refine ⟨i, j, zero, ?_, fun same => ?_⟩
  · obtain ⟨close⟩ := close
    rw [left, right, ← sub_mul, abs_mul, abs_of_pos unit, mul_right_comm, ← mul_assoc,
      mul_le_mul_iff_left₀ unit] at close
    have distance : (((((d * 2 ^ i : ℕ) * a : ℤ) - (m * 2 ^ j : ℕ) * b).natAbs : ℕ) : ℝ)
        = |((d * 2 ^ i : ℕ) * a : ℝ) - (m * 2 ^ j : ℕ) * b| := by
      rw [Nat.cast_natAbs]
      push_cast
      rfl
    rw [← distance] at close
    exact_mod_cast close
  · rw [left, right]
    congr 1
    exact_mod_cast same

/-- What is close to a multiple of at most `2^25` has not much larger a multiple itself. -/
theorem multiple_le (h : b ≤ a) (ha : 0 < a) (hm : m < 2 ^ 25)
    (close : ((d * a : ℤ) - m * b).natAbs * 2 ^ 72 ≤ (2 ^ 20 + 1) * (d * a)) : d ≤ 2 ^ 25 := by
  by_contra large
  have less : m * b ≤ (2 ^ 25 - 1) * a := Nat.mul_le_mul (by omega) h
  have more : (2 ^ 25 + 1) * a ≤ d * a := Nat.mul_le_mul_right a (by omega)
  omega

/-- **A decimal and a binary number with few digits are equal or not close**, but for
one decimal and its double. -/
theorem eq_or_of_close {d m : ℕ} {e s : ℤ} (hd : 0 < d) (hd' : d ≤ 2 ^ 24 + 2) (hm : m < 2 ^ 25)
    (least : -53 ≤ e) (greatest : e ≤ 38) (close : Close (d * 10 ^ e) (m * 2 ^ s)) :
    (d * 10 ^ e : ℝ) = m * 2 ^ s ∨ e = -32 ∧ 7038531 ∣ d := by
  obtain ⟨i, j, zero, near, equal⟩ := close.exists_mul
  obtain ⟨pos, le, -⟩ := fiveRatio_spec e
  have hm0 : 0 < m := by
    refine Nat.pos_of_ne_zero fun none => ?_
    have value : (0 : ℝ) < d * 10 ^ e := by positivity
    obtain ⟨close⟩ := close
    rw [none, Nat.cast_zero, zero_mul, sub_zero, abs_of_pos value] at close
    linarith
  have bound : d * 2 ^ i ≤ 2 ^ 25 := by
    rcases zero with rfl | rfl
    · omega
    · exact multiple_le le (pos.trans_le le) (by simpa using hm) (by simpa using near)
  have hdi : 0 < d * 2 ^ i := Nat.mul_pos hd (Nat.two_pow_pos i)
  by_cases special : e = -32
  · subst special
    have isolates : Isolates (fiveRatio (-32)).1 (fiveRatio (-32)).2 22841339 14077062 := by
      decide +kernel
    obtain ⟨k, first, -⟩ := isolates.eq_mul hdi bound near
    have divides : 7038531 ∣ d * 2 ^ i := first ▸ Nat.dvd_mul_left_of_dvd (by norm_num) k
    have coprime : Nat.Coprime 7038531 (2 ^ i) := Nat.Coprime.pow_right i (by norm_num)
    exact .inr ⟨rfl, coprime.dvd_of_dvd_mul_right divides⟩
  · obtain ⟨n, rfl⟩ : ∃ n : Fin 92, e = n - 53 :=
      ⟨⟨(e + 53).toNat, by omega⟩, by simp; omega⟩
    have other : n ≠ 21 := fun same => special (by rw [same]; rfl)
    obtain ⟨pair, -, isolates, excludes⟩ := exists_settles n other
    obtain ⟨k, first, second⟩ := isolates.eq_mul hdi bound near
    exact .inl (equal (excludes.eq hd hd' hm0 hm first second near))

end DocSieve
