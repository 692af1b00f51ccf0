import DocSieve.Proofs.Json.Lexeme
import DocSieve.Proofs.Json.Record
import DocSieve.Proofs.Json.Scaling
import DocSieve.Proofs.Numeric.Shortest

/-!
# Finite single-precision numbers are read back

The reader rounds twice, so that a decimal which rounds to a number is not always read as
that number. The shortest decimal is: what the reader makes of it is close to the decimal,
and a decimal that is close to an end of what rounds to a magnitude has so few digits that
it is that end (`eq_or_of_close`), and then the reader makes no error. One decimal and its
double stand apart; for them the reader's result is computed.

Key theorems: `Magnitude.Written.around_of_reads`, `readsBack_single`.
-/

namespace DocSieve

open BinaryFormat Double

namespace Magnitude

variable {x : Magnitude} {d : Decimal}

/-! ### The ends are binary numbers of 25 bits -/

theorem Short.exists_lower (h : x.Short) :
    ∃ (m : ℕ) (s : ℤ), m < 2 ^ 25 ∧ x.lower = m * 2 ^ s := by
  have lt := h.lt
  have pos := h.pos
  unfold lower below
  split_ifs with narrow
  · have := h.narrow narrow
    exact ⟨_, _, by omega, rfl⟩
  · refine ⟨2 * x.significand - 1, x.exponent - 1, by omega, ?_⟩
    rw [show 4 * x.significand - 2 = (2 * x.significand - 1) * 2 by omega, scaled,
      show x.exponent - 1 = x.exponent - 2 + 1 by ring, zpow_add_one₀ two_ne_zero]
    push_cast
    ring

theorem Short.exists_upper (h : x.Short) :
    ∃ (m : ℕ) (s : ℤ), m < 2 ^ 25 ∧ x.upper = m * 2 ^ s := by
  have lt := h.lt
  refine ⟨2 * x.significand + 1, x.exponent - 1, by omega, ?_⟩
  rw [upper, scaled, show x.exponent - 1 = x.exponent - 2 + 1 by ring, zpow_add_one₀ two_ne_zero]
  push_cast
  ring

/-! ### Reading stays between the ends -/

/-- The decimal is one of the two that come close to an end without being it. -/
def Special (d : Decimal) : Prop := d.exponent = -32 ∧ 7038531 ∣ d.digits ∧ d.digits ≤ 2 ^ 24 + 2

/-- A decimal that is close to an end is that end, and is read as it. -/
theorem Written.eq_of_close (h : x.Written d) (ordinary : ¬ Special d) {w : ℝ}
    (isEnd : w = x.lower ∨ w = x.upper)
    (binary : ∃ (m : ℕ) (s : ℤ), m < 2 ^ 25 ∧ w = m * 2 ^ s) (close : Close d.real w) :
    d.real = w := by
  have few : d.digits ≤ 2 ^ 24 + 2 := by
    rcases isEnd with rfl | rfl
    · exact h.few (.inl close)
    · exact h.few (.inr close)
  obtain ⟨m, s, hm, rfl⟩ := binary
  rcases eq_or_of_close h.pos few hm h.least h.greatest close with same | ⟨exponent, divides⟩
  · exact same
  · exact absurd ⟨exponent, divides, few⟩ ordinary

/-- **What is read for a written decimal is around the magnitude**, but for two decimals. -/
theorem Written.around_of_reads (short : x.Short) (h : x.Written d) (ordinary : ¬ Special d)
    {y : Float} (reads : Reads y d.real) : x.Around (Double.real y) := by
  have close := reads.close.le
  constructor
  · rcases h.around.1 with inside | ⟨same, even⟩
    · refine .inl (lt_of_not_ge fun outside => inside.ne' ?_)
      refine h.eq_of_close ordinary (.inl rfl) short.exists_lower ⟨le_trans ?_ close⟩
      rw [abs_of_pos (sub_pos.mpr inside), abs_of_nonneg (by linarith)]
      gcongr
    · obtain ⟨m, s, hm, binary⟩ := short.exists_lower
      exact .inr ⟨same.trans (reads.exact m s hm (same ▸ binary)).symm, even⟩
  · rcases h.around.2 with inside | ⟨same, even⟩
    · refine .inl (lt_of_not_ge fun outside => inside.ne ?_)
      refine h.eq_of_close ordinary (.inr rfl) short.exists_upper ⟨le_trans ?_ close⟩
      rw [abs_sub_comm, abs_of_pos (sub_pos.mpr inside), abs_sub_comm, abs_of_nonneg (by linarith)]
      gcongr
    · obtain ⟨m, s, hm, binary⟩ := short.exists_upper
      exact .inr ⟨(reads.exact m s hm (same ▸ binary)).trans same, even⟩

end Magnitude

/-! ### Two decimals -/

/-- What the reader makes of the two decimals, with either sign. -/
theorem narrow_special (negative : Bool) {digits : ℕ} (mem : digits ∈ [7038531, 14077062]) :
    ∃ y, scaleByTen (naturalToDouble digits) (-32) = some y ∧
      narrow (if negative then -y else y)
        = single32 negative (single.roundRatio digits (10 ^ 32)) := by
  have scaled : scaleByTen (naturalToDouble digits) (-32)
      = some (naturalToDouble digits / powerOfTen 32) := by
    unfold scaleByTen
    rfl
  refine ⟨_, scaled, ?_⟩
  revert negative
  simp only [List.mem_cons, List.not_mem_nil, or_false] at mem
  obtain rfl | rfl := mem <;> decide +kernel

/-! ### Written and read -/

section Shortest

variable {x : Magnitude} {d : Decimal}

theorem Magnitude.Written.spells (h : x.Written d) :
    Spells (jsonSingleStyle.decimal d) d.digits d.exponent ∨
      ∃ k : ℕ, d.exponent = k ∧ d.digits * 10 ^ k < 10 ^ 13 ∧
        Spells (jsonSingleStyle.decimal d) (d.digits * 10 ^ (k + 1)) (-1) := by
  have digits : d.digits < 10 ^ 10 := h.digits_le.trans_lt (by norm_num)
  have length : (Nat.toDigits 10 d.digits).length ≤ 10 :=
    (Nat.length_toDigits_le_iff (by norm_num) (by norm_num)).mpr digits
  have least := h.least
  have greatest := h.greatest
  have positional : jsonSingleStyle.positional = some (-6, 12) := rfl
  refine NumberStyle.spells_decimal rfl rfl positional ?_
  rw [JsonNumber.greatestExponent]
  omega

theorem Magnitude.Written.exists_spells (h : x.Written d) : ∃ (n : ℕ) (shift : ℤ),
    Spells (jsonSingleStyle.decimal d) n shift ∧ (n * 10 ^ shift : ℝ) = d.real ∧
      0 < n ∧ n < 2 ^ 53 ∧ shift.natAbs ≤ 53 := by
  have pos := h.pos
  have most := h.digits_le
  have least := h.least
  have greatest := h.greatest
  rcases h.spells with spells | ⟨k, exponent, short, spells⟩
  · exact ⟨_, _, spells, rfl, pos, by omega, by omega⟩
  · refine ⟨_, _, spells, ?_, by positivity, ?_, by norm_num⟩
    · rw [Decimal.real, exponent, zpow_natCast, zpow_neg_one, pow_succ]
      push_cast
      field_simp
    · rw [pow_succ, ← mul_assoc]
      omega

/-- **The number of bits is read from the text of its shortest decimal.** -/
theorem toSingle?_shortest (negative : Bool) {bits : ℕ} (nonzero : bits ≠ 0)
    (finite : bits < single.infinity) :
    (JsonNumber.ofLexeme ((if negative then ['-'] else []) ++
        jsonSingleStyle.decimal ((single.decode bits).shortest .even))).toSingle?
      = some (single32 negative bits) := by
  have short := Magnitude.short_decode nonzero finite
  have written := short.written_shortest .even
  generalize (single.decode bits).shortest .even = d at *
  by_cases special : Magnitude.Special d
  · obtain ⟨exponent, divides, most⟩ := special
    have pos := written.pos
    have mem : d.digits ∈ [7038531, 14077062] := by
      simp only [List.mem_cons, List.not_mem_nil, or_false]
      omega
    have spells : Spells (jsonSingleStyle.decimal d) d.digits (-32) := by
      rcases written.spells with spells | ⟨k, negative, -⟩
      · exact exponent ▸ spells
      · omega
    obtain ⟨y, scaled, narrowed⟩ := narrow_special negative mem
    have value : ((d.digits : ℕ) : ℝ) / (10 ^ 32 : ℕ) = d.real := by
      rw [Decimal.real, exponent, zpow_neg, div_eq_mul_inv]
      norm_num
    have rounded := roundRatio_eq nonzero finite pos (Nat.pow_pos (by norm_num))
      (value ▸ written.around)
    rw [spells.ofLexeme (most.trans_lt (by decide)) negative, scaled, ← rounded, ← narrowed]
    rfl
  · obtain ⟨n, shift, spells, value, pos, fits, small⟩ := written.exists_spells
    obtain ⟨y, scaled, reads⟩ := scaleByTen_reads pos fits small
    rw [value] at reads
    obtain ⟨r, approximates⟩ := reads.approximates
    have around := written.around_of_reads short special reads
    rw [spells.ofLexeme (fits.trans (by decide)) negative, scaled,
      ← approximates.narrow nonzero finite around negative]
    rfl

end Shortest

theorem toSingle?_zero (negative : Bool) :
    (JsonNumber.ofLexeme ((if negative then ['-'] else []) ++
        jsonSingleStyle.fullForm ['0'] 0)).toSingle? = some (single32 negative 0) := by
  revert negative
  decide +kernel

theorem single32_toBits (x : Float32) :
    single32 (decide (x.toBits.toNat ≥ single.signBit)) (x.toBits.toNat % single.signBit) = x := by
  have bits : x.toBits.toNat % single.signBit
      + (if decide (x.toBits.toNat ≥ single.signBit) then single.signBit else 0)
      = x.toBits.toNat := by
    have := x.toBits.toNat_lt
    change x.toBits.toNat % 2 ^ 31
      + (if decide (x.toBits.toNat ≥ 2 ^ 31) then 2 ^ 31 else 0) = _
    simp only [decide_eq_true_eq]
    split_ifs <;> omega
  rw [single32, bits, UInt32.ofNat_toNat, Float32.ofBits_toBits]

/-- **The text of a finite number is read as the number.** -/
theorem toSingle?_single {x : Float32} (finite : x.isFinite = true) :
    (JsonNumber.ofLexeme (jsonSingleStyle.single x).toList).toSingle? = some x := by
  have below : x.toBits.toNat % single.signBit < single.infinity :=
    magnitude_lt_infinity .binary32 x.toBits.toBitVec finite
  have parts := single32_toBits x
  have sign : (if x.toBits.toNat ≥ single.signBit then ['-'] else [])
      = if decide (x.toBits.toNat ≥ single.signBit) then ['-'] else [] := by
    simp only [decide_eq_true_eq]
  unfold NumberStyle.single NumberStyle.text
  dsimp only
  rw [sign]
  generalize decide (x.toBits.toNat ≥ single.signBit) = negative at *
  generalize x.toBits.toNat % single.signBit = bits at *
  subst parts
  rw [if_neg below.not_gt, if_neg below.ne]
  by_cases zero : bits = 0
  · rw [if_pos zero, String.toList_ofList, zero]
    exact toSingle?_zero negative
  · rw [if_neg zero, String.toList_ofList]
    exact toSingle?_shortest negative zero below

/-- A single-precision number is read back just when it is finite. -/
theorem readsBack_single (x : Float32) :
    ReadsBack JsonValue.ofSingle JsonValue.single? x ↔ x.isFinite = true := by
  rw [readsBack_single_iff]
  exact ⟨And.left, fun finite => ⟨finite, toSingle?_single finite⟩⟩

theorem single?_ofSingle_iff (x : Float32) :
    (JsonValue.ofSingle x).single? = some x ↔ x.isFinite = true :=
  (readsBack_iff (JsonValue.proper_ofSingle x)).symm.trans (readsBack_single x)

end DocSieve
