import DocSieve.Json.Number
import DocSieve.Proofs.Json.Numeral

/-!
# The numbers that are written

Whatever the layout, a finite number is written as a numeral. The digits of its
shortest decimal do not start with a zero, for a decimal that reads back to a magnitude
above zero is above zero (`Magnitude.shortest_pos`); so no form puts a zero in front
that the grammar forbids.

Key theorems: `NumberStyle.isNumeral_text`, `JsonValue.word?_ofWord`.
-/

namespace DocSieve

/-! ### Digits -/

theorem IsDigits.append {text rest : List Char} (h : IsDigits text)
    (all : ∀ c ∈ rest, c.isDigit = true) : IsDigits (text ++ rest) :=
  ⟨by simp [h.ne_nil], List.forall_mem_append.mpr ⟨h.all, all⟩⟩

theorem IsLed.append {text rest : List Char} (h : IsLed text)
    (all : ∀ c ∈ rest, c.isDigit = true) : IsLed (text ++ rest) where
  toIsDigits := h.toIsDigits.append all
  notZero := by
    obtain ⟨c, more, rfl, -⟩ := h.first
    exact h.notZero

theorem IsLed.take {text : List Char} (h : IsLed text) {k : Nat} (pos : 0 < k) :
    IsLed (text.take k) := by
  obtain ⟨c, more, rfl, -⟩ := h.first
  obtain ⟨k, rfl⟩ := Nat.exists_eq_succ_of_ne_zero (Nat.ne_of_gt pos)
  exact ⟨⟨by simp, fun c mem => h.all c (List.mem_of_mem_take mem)⟩, h.notZero⟩

theorem isDigits_zero : IsDigits ['0'] :=
  ⟨nofun, fun _ mem => List.mem_singleton.mp mem ▸ rfl⟩

theorem isDigits_toDigits (n : Nat) : IsDigits (Nat.toDigits 10 n) :=
  ⟨Nat.toDigits_ne_nil, fun _ => Nat.isDigit_of_mem_toDigits (by decide) (by decide)⟩

/-- The digits of a number above zero do not start with a zero. -/
theorem isLed_toDigits {n : Nat} (pos : 0 < n) : IsLed (Nat.toDigits 10 n) := by
  induction n using Nat.strongRecOn with
  | ind n ih =>
    refine ⟨isDigits_toDigits n, ?_⟩
    by_cases small : n < 10
    · simpa [Nat.toDigits_of_lt_base small] using Nat.ne_of_gt pos
    · have led := ih (n / 10) (by omega) (by omega)
      rw [Nat.toDigits_of_base_le (by decide) (by omega)]
      exact (led.append (by simpa using Nat.mod_lt n (by decide))).notZero

theorem isWhole_toDigits (n : Nat) : IsWhole (Nat.toDigits 10 n) := by
  rcases Nat.eq_zero_or_pos n with rfl | pos
  · exact .zero
  · exact .led (isLed_toDigits pos)

@[simp]
theorem digitsValue_toDigits (n : Nat) : digitsValue (Nat.toDigits 10 n) = n :=
  Nat.ofDigitChars_ten_toDigits

/-! ### Forms -/

namespace NumberStyle

variable (style : NumberStyle)

theorem isDigit_of_mem_replicate {k : Nat} {c : Char} (mem : c ∈ List.replicate k '0') :
    c.isDigit = true := by
  rw [List.eq_of_mem_replicate mem]
  rfl

theorem isUnsigned_fullForm {digits : List Char} (led : IsLed digits) (leading : Int) :
    IsUnsigned (style.fullForm digits leading) := by
  unfold fullForm
  split
  · have fraction : IsDigits (List.replicate (-leading - 1).toNat '0' ++ digits) := by
      refine ⟨by simp [led.ne_nil], List.forall_mem_append.mpr ⟨?_, led.all⟩⟩
      exact fun c => isDigit_of_mem_replicate
    simpa using IsUnsigned.mk .zero (.some fraction) .none
  dsimp only
  split
  · rename_i short
    have fraction : IsDigits (digits.drop (leading.toNat + 1)) :=
      ⟨by simpa using short, fun c mem => led.all c (List.mem_of_mem_drop mem)⟩
    simpa using IsUnsigned.mk (.led (led.take (Nat.succ_pos leading.toNat))) (.some fraction) .none
  · have whole := IsWhole.led (led.append
      (fun c => isDigit_of_mem_replicate (k := leading.toNat + 1 - digits.length)))
    split
    · simpa using IsUnsigned.mk whole (.some isDigits_zero) .none
    · simpa using IsUnsigned.mk whole .none .none

/-- A zero is written with the digit that only it may start with. -/
theorem isUnsigned_zero : IsUnsigned (style.fullForm ['0'] 0) := by
  have fraction : IsFraction (if style.pointZero then ['.', '0'] else []) := by
    split
    · exact .some isDigits_zero
    · exact .none
  simpa [fullForm] using IsUnsigned.mk .zero fraction .none

theorem isUnsigned_exponentForm {digits : List Char} (led : IsLed digits) (leading : Int) :
    IsUnsigned (style.exponentForm digits leading) := by
  have exponent : IsExponent ((if leading < 0 then ['e', '-'] else
      if style.plusSign then ['e', '+'] else ['e']) ++ Nat.toDigits 10 leading.natAbs) := by
    have all := isDigits_toDigits leading.natAbs
    split
    · exact .some 'e' ['-'] (by decide) (by decide) all
    split
    · exact .some 'e' ['+'] (by decide) (by decide) all
    · exact .some 'e' [] (by decide) (by decide) all
  unfold exponentForm
  dsimp only
  rw [List.append_assoc, Nat.toList_repr]
  split
  · rename_i first second rest
    have whole : IsLed [first] := led.take (k := 1) Nat.one_pos
    have fraction : IsDigits (second :: rest) := ⟨by simp, fun c mem => led.all c (.tail _ mem)⟩
    exact .mk (.led whole) (.some fraction) exponent
  · simpa using IsUnsigned.mk (.led led) .none exponent

theorem isUnsigned_decimal {d : Decimal} (pos : 0 < d.digits) : IsUnsigned (style.decimal d) := by
  have led := isLed_toDigits pos
  unfold decimal
  rw [Nat.toList_repr]
  dsimp only
  split
  · exact style.isUnsigned_fullForm led _
  split
  · exact style.isUnsigned_fullForm led _
  · exact style.isUnsigned_exponentForm led _

end NumberStyle

/-! ### The shortest decimal -/

theorem Decimal.stripZeros_pos {d : Decimal} (pos : 0 < d.digits) : 0 < d.stripZeros.digits := by
  fun_induction stripZeros d with
  | case1 d zero ih => exact ih (by show 0 < d.digits / 10; omega)
  | case2 d done => exact pos

namespace Magnitude

variable {x : Magnitude}

theorem digits_pos_of_readsBack (pos : 0 < x.significand) {d : Decimal}
    (reads : x.readsBack d = true) : 0 < d.digits := by
  by_contra zero
  have lower : d.compareBinary
      (if x.narrowBelow then 4 * x.significand - 1 else 4 * x.significand - 2)
      (x.exponent - 2) = .lt := by
    have zero : d.digits = 0 := by omega
    unfold Decimal.compareBinary
    rw [zero, Nat.zero_mul, Nat.zero_mul, Nat.compare_eq_lt]
    have below : 0 < if x.narrowBelow then 4 * x.significand - 1 else 4 * x.significand - 2 := by
      split <;> omega
    have two : 0 < Nat.pow 2 (x.exponent - 2).toNat := Nat.pow_pos (by decide)
    have ten : 0 < Nat.pow 10 (-d.exponent).toNat := Nat.pow_pos (by decide)
    exact Nat.mul_pos (Nat.mul_pos below two) ten
  simp [readsBack, lower] at reads

theorem onGrid?_pos (pos : 0 < x.significand) {tie : Tie} {exponent : Int} {d : Decimal}
    (found : x.onGrid? tie exponent = some d) : 0 < d.digits := by
  -- The upper neighbour is above zero anyway; the lower one is taken if it reads back.
  have high : 0 < x.floorOn exponent + 1 := Nat.succ_pos _
  have low := digits_pos_of_readsBack pos (d := ⟨x.floorOn exponent, exponent⟩)
  unfold onGrid? at found
  dsimp only at found
  split at found
  · cases found
  · cases found
    exact low ‹_›
  · cases found
    exact high
  · split at found
    · cases found
      exact high
    · cases found
      exact low ‹_›
    · cases tie with
      | up =>
        cases found
        exact high
      | even =>
        cases found
        split
        · exact low ‹_›
        · exact high

theorem exact_pos (pos : 0 < x.significand) : 0 < x.exact.digits := by
  have two : 0 < Nat.pow 2 x.exponent.toNat := Nat.pow_pos (by decide)
  have five : 0 < Nat.pow 5 (-x.exponent).toNat := Nat.pow_pos (by decide)
  exact Nat.mul_pos (Nat.mul_pos pos two) five

theorem shortest_pos (pos : 0 < x.significand) (tie : Tie) : 0 < (x.shortest tie).digits := by
  refine Decimal.stripZeros_pos ?_
  cases found : (List.range 17).findSome? fun n => x.onGrid? tie (x.scale - (n + 1 : Nat)) with
  | none => exact exact_pos pos
  | some d =>
    obtain ⟨n, -, onGrid⟩ := List.exists_of_findSome?_eq_some found
    exact onGrid?_pos pos onGrid

end Magnitude

/-! ### The text of a number -/

theorem BinaryFormat.decode_pos (format : BinaryFormat) {bits : Nat} (nonzero : bits ≠ 0) :
    0 < (format.decode bits).significand := by
  have power : 0 < Nat.pow 2 format.fractionBits := Nat.pow_pos (by decide)
  unfold decode
  dsimp only
  split
  · rename_i field
    rw [Nat.div_eq_zero_iff_lt power] at field
    show 0 < bits % _
    rw [Nat.mod_eq_of_lt field]
    exact Nat.pos_of_ne_zero nonzero
  · exact Nat.add_pos_left power _

/-- **A finite number is written as a numeral**, in any style. -/
theorem NumberStyle.isNumeral_text (style : NumberStyle) (format : BinaryFormat) {bits : Nat}
    (finite : bits % format.signBit < format.infinity) :
    IsNumeral (style.text format bits).toList := by
  have signed : ∀ {text : List Char}, IsUnsigned text →
      IsNumeral (String.ofList ((if bits ≥ format.signBit then ['-'] else []) ++ text)).toList := by
    intro text isUnsigned
    rw [String.toList_ofList]
    split
    · exact .negative isUnsigned
    · exact .positive isUnsigned
  unfold text
  dsimp only
  rw [if_neg (Nat.not_lt_of_gt finite), if_neg (Nat.ne_of_lt finite)]
  split
  · exact signed style.isUnsigned_zero
  · rename_i nonzero
    exact signed (style.isUnsigned_decimal (Magnitude.shortest_pos (format.decode_pos nonzero) _))

theorem magnitude_lt_infinity (format : Float.Model.Format) (bits : BitVec format.numBits)
    (finite : (Float.Model.UnpackedFloat.unpack format bits).isFinite = true) :
    bits.toNat % Nat.pow 2 (format.mantissaBitsWithoutImplicit + format.exponentBits)
      < (Nat.pow 2 format.exponentBits - 1) * Nat.pow 2 format.mantissaBitsWithoutImplicit := by
  have field : (Float.Model.UnpackedFloat.unpackExponent bits).toNat
      = bits.toNat / Nat.pow 2 format.mantissaBitsWithoutImplicit
        % Nat.pow 2 format.exponentBits := by
    have he := format.he
    simp only [Float.Model.UnpackedFloat.unpackExponent, BitVec.toNat_cast,
      BitVec.extractLsb_toNat, Nat.shiftRight_eq_div_pow, Nat.pow_eq]
    congr 2
    omega
  have notTop : Float.Model.UnpackedFloat.unpackExponent bits ≠ -1#_ := by
    intro top
    unfold Float.Model.UnpackedFloat.unpack at finite
    dsimp only at finite
    rw [if_pos top] at finite
    split at finite <;> cases finite
  have below : (Float.Model.UnpackedFloat.unpackExponent bits).toNat
      < Nat.pow 2 format.exponentBits - 1 := by
    refine Nat.lt_of_le_of_ne (Nat.le_sub_one_of_lt (BitVec.isLt _)) fun same => notTop ?_
    refine BitVec.eq_of_toNat_eq ?_
    rw [same, BitVec.neg_one_eq_allOnes, BitVec.toNat_allOnes, Nat.pow_eq]
  rw [field] at below
  simp only [Nat.pow_eq] at below ⊢
  rw [Nat.pow_add, ← Nat.div_lt_iff_lt_mul (Nat.two_pow_pos _), Nat.mod_mul_right_div_self]
  exact below

theorem isNumeral_single {x : Float32} (finite : x.isFinite = true) :
    IsNumeral (jsonSingleStyle.single x).toList :=
  jsonSingleStyle.isNumeral_text .single
    (magnitude_lt_infinity .binary32 x.toBits.toBitVec finite)

theorem isNumeral_double {x : Float} (finite : x.isFinite = true) :
    IsNumeral (jsonDoubleStyle.double x).toList :=
  jsonDoubleStyle.isNumeral_text .double
    (magnitude_lt_infinity .binary64 x.toBits.toBitVec finite)

/-! ### Reading an integer -/

theorem NumberParts.ofLexeme_digits {digits : List Char} (h : IsDigits digits) :
    ofLexeme digits = ⟨false, digits, none, none⟩ := by
  have span : (digits ++ []).span Char.isDigit = (digits, []) := h.span_append nofun
  rw [List.append_nil] at span
  obtain ⟨c, more, rfl, digit⟩ := h.first
  unfold ofLexeme
  split
  rename_i signed
  split at signed
  · rename_i minus
    exact absurd (List.cons.inj minus).1 (ne_of_isDigit digit rfl)
  · cases signed
    rw [span]
    rfl

namespace JsonValue

@[simp]
theorem word?_ofWord (n : UInt64) : (ofWord n).word? = some n := by
  have read : JsonNumber.ofLexeme (Nat.toDigits 10 n.toNat) = .word n := by
    unfold JsonNumber.ofLexeme
    rw [NumberParts.ofLexeme_digits (isDigits_toDigits n.toNat)]
    simp [n.toNat_lt_size]
  simp [ofWord, word?, read]

end JsonValue

end DocSieve
