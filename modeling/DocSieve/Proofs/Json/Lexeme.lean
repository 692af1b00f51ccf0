import DocSieve.Proofs.Json.Number
import DocSieve.Proofs.Numeric.Nearest

/-!
# What a lexeme stands for

A lexeme is the text of its parts, and the parts are found again. If their digits fit 64
bits, all of them are gathered, and the lexeme stands for their number, times the power of
ten that the exponent and the places of the fraction make. For a decimal that is written,
in full or with an exponent, that is the number of the decimal.

Key definitions: `NumberParts.text`, `NumberParts.digits`, `NumberParts.shift`, `Spells`.
Key theorems: `NumberParts.ofLexeme_text`, `JsonNumber.ofParts_eq`, `NumberStyle.spells_decimal`.
-/

namespace DocSieve

open Nat (ofDigitChars)

/-! ### Gathering digits -/

theorem digitsValue_eq (digits : List Char) : digitsValue digits = ofDigitChars 10 digits 0 := rfl

theorem digitsValue_append (first second : List Char) :
    digitsValue (first ++ second) = ofDigitChars 10 second (digitsValue first) :=
  Nat.ofDigitChars_append 0

theorem le_ofDigitChars (n : ℕ) (digits : List Char) : n ≤ ofDigitChars 10 digits n := by
  rw [Nat.ofDigitChars_eq_ofDigitChars_zero]
  exact (Nat.le_mul_of_pos_left n (Nat.pow_pos (by norm_num))).trans (Nat.le_add_right _ _)

/-- Digits whose number fits 64 bits are all gathered. -/
theorem gather_eq {n : ℕ} {digits : List Char} (fits : ofDigitChars 10 digits n < UInt64.size) :
    gather n digits = (ofDigitChars 10 digits n, digits.length) := by
  induction digits generalizing n with
  | nil => rfl
  | cons c rest ih =>
    rw [Nat.ofDigitChars_cons] at fits ⊢
    have next : 10 * n + digitValue c < UInt64.size := (le_ofDigitChars _ rest).trans_lt fits
    have gathered : gather (10 * n + digitValue c) rest
        = (ofDigitChars 10 rest (10 * n + digitValue c), rest.length) := ih fits
    unfold gather
    dsimp only
    rw [if_pos next, gathered]
    rfl

/-! ### Parts -/

namespace NumberParts

/-- The text of an exponent. -/
def exponentText : Option (Bool × List Char) → List Char
  | none => []
  | some (below, digits) => 'e' :: (if below then '-' else '+') :: digits

/-- The text of a fraction. -/
def fractionText : Option (List Char) → List Char
  | none => []
  | some digits => '.' :: digits

variable (parts : NumberParts)

/-- The text of the parts. -/
def text : List Char :=
  (if parts.negative then ['-'] else []) ++
    (parts.whole ++ (fractionText parts.fraction ++ exponentText parts.exponent))

/-- The number that the digits of both sides of the point make. -/
def digits : ℕ := digitsValue (parts.whole ++ parts.fraction.getD [])

/-- The exponent, zero without one. -/
def exponentValue : Option (Bool × List Char) → ℤ
  | none => 0
  | some (below, digits) => if below then -digitsValue digits else digitsValue digits

/-- The power of ten that the number of the digits is multiplied with. -/
def shift : ℤ := exponentValue parts.exponent - (parts.fraction.getD []).length

/-- All parts that there are have a digit. -/
structure Proper : Prop where
  whole : IsDigits parts.whole
  fraction : ∀ digits ∈ parts.fraction, IsDigits digits
  exponent : ∀ exponent ∈ parts.exponent, IsDigits exponent.2

variable {parts}

theorem splitExponent_exponentText (exponent : Option (Bool × List Char)) :
    splitExponent (exponentText exponent) = exponent := by
  rcases exponent with _ | ⟨_ | _, digits⟩ <;> rfl

theorem endsDigits_exponentText (exponent : Option (Bool × List Char)) :
    EndsDigits (exponentText exponent) := by
  rcases exponent with _ | ⟨below, digits⟩
  · exact nofun
  · exact fun c first => Option.some.inj first ▸ rfl

/-- The parts of an unsigned lexeme. -/
def ofUnsigned (negative : Bool) (unsigned : List Char) : NumberParts :=
  let (whole, rest) := unsigned.span Char.isDigit
  match rest with
  | '.' :: rest =>
    let (fraction, rest) := rest.span Char.isDigit
    ⟨negative, whole, some fraction, splitExponent rest⟩
  | rest => ⟨negative, whole, none, splitExponent rest⟩

theorem ofUnsigned_text (negative : Bool) {whole : List Char} {fraction : Option (List Char)}
    (exponent : Option (Bool × List Char)) (hw : IsDigits whole)
    (hf : ∀ digits ∈ fraction, IsDigits digits) :
    ofUnsigned negative (whole ++ (fractionText fraction ++ exponentText exponent))
      = ⟨negative, whole, fraction, exponent⟩ := by
  have ends := endsDigits_exponentText exponent
  have split := splitExponent_exponentText exponent
  unfold ofUnsigned
  cases fraction with
  | none =>
    rw [fractionText, List.nil_append, hw.span_append ends]
    rcases exponent with _ | ⟨below, digits⟩ <;> exact congrArg _ split
  | some digits =>
    have point : EndsDigits ('.' :: (digits ++ exponentText exponent)) :=
      fun c first => Option.some.inj first ▸ rfl
    rw [fractionText, List.cons_append, hw.span_append point]
    simp only [(hf digits rfl).span_append ends, split]

theorem ofLexeme_minus (unsigned : List Char) :
    ofLexeme ('-' :: unsigned) = ofUnsigned true unsigned := rfl

theorem ofLexeme_digit {c : Char} (digit : c.isDigit = true) (rest : List Char) :
    ofLexeme (c :: rest) = ofUnsigned false (c :: rest) := by
  unfold ofLexeme
  split
  rename_i signed
  split at signed
  · rename_i minus
    exact absurd (List.cons.inj minus).1 (ne_of_isDigit digit rfl)
  · cases signed
    rfl

/-- **The parts are found again in their text.** -/
theorem ofLexeme_text (proper : parts.Proper) : ofLexeme parts.text = parts := by
  obtain ⟨negative, whole, fraction, exponent⟩ := parts
  refine Eq.trans ?_ (ofUnsigned_text negative exponent proper.whole proper.fraction)
  cases negative with
  | true => exact ofLexeme_minus _
  | false =>
    obtain ⟨c, more, same, digit⟩ := proper.whole.first
    obtain rfl : whole = c :: more := same
    exact ofLexeme_digit digit _

end NumberParts

/-! ### The number -/

/-- Without a fraction and an exponent a lexeme may be an integer. -/
def NumberParts.Real (parts : NumberParts) : Prop :=
  parts.fraction.isSome = true ∨ parts.exponent.isSome = true

namespace JsonNumber

variable {parts : NumberParts}

/-- **A lexeme stands for its digits, times a power of ten**, if the digits fit 64 bits. -/
theorem ofParts_eq (fits : parts.digits < UInt64.size)
    (small : ∀ exponent ∈ parts.exponent, digitsValue exponent.2 ≤ greatestExponent) :
    ofParts parts
      = signed parts.negative (scaleByTen (naturalToDouble parts.digits) parts.shift) := by
  obtain ⟨negative, whole, fraction, exponent⟩ := parts
  unfold NumberParts.digits at *
  rw [digitsValue_append] at *
  dsimp only at *
  have first := gather_eq ((le_ofDigitChars _ _).trans_lt fits)
  have second := gather_eq fits
  unfold ofParts NumberParts.shift
  rw [digitsValue_eq] at *
  simp only [first, second]
  rw [Nat.sub_self, Nat.cast_zero, zero_sub]
  cases exponent with
  | none =>
    rw [NumberParts.exponentValue, zero_sub]
  | some exponent =>
    obtain ⟨below, digits⟩ := exponent
    have small : ¬ digitsValue digits > greatestExponent := (small _ rfl).not_gt
    dsimp only [NumberParts.exponentValue]
    rw [if_neg small]
    cases below
    · rw [if_neg Bool.false_ne_true, if_neg Bool.false_ne_true, neg_add_eq_sub]
    · rw [if_pos rfl, if_pos rfl, neg_sub_left, sub_eq_add_neg, ← neg_add, add_comm]

theorem ofLexeme_eq_ofParts (proper : parts.Proper) (real : parts.Real) :
    ofLexeme parts.text = ofParts parts := by
  have integral : (parts.fraction.isNone && parts.exponent.isNone) = false := by
    obtain ⟨negative, whole, fraction, exponent⟩ := parts
    rcases real with h | h
    · rw [Option.isNone_eq_false_iff.mpr h, Bool.false_and]
    · rw [Option.isNone_eq_false_iff.mpr h, Bool.and_false]
  unfold ofLexeme
  dsimp only
  rw [NumberParts.ofLexeme_text proper, integral]
  rfl

end JsonNumber

/-- The text is one without a sign, with a fraction or an exponent, whose digits make `n`,
and which stands for `n` times a power of ten. -/
def Spells (text : List Char) (n : ℕ) (shift : ℤ) : Prop :=
  ∃ parts : NumberParts, parts.Proper ∧ parts.Real ∧ parts.negative = false ∧
    parts.text = text ∧ parts.digits = n ∧ parts.shift = shift ∧
    ∀ exponent ∈ parts.exponent, digitsValue exponent.2 ≤ JsonNumber.greatestExponent

/-- The number of a text that spells it, behind a sign or without one. -/
theorem Spells.ofLexeme {text : List Char} {n : ℕ} {shift : ℤ} (h : Spells text n shift)
    (fits : n < UInt64.size) (negative : Bool) :
    JsonNumber.ofLexeme ((if negative then ['-'] else []) ++ text)
      = .signed negative (scaleByTen (naturalToDouble n) shift) := by
  obtain ⟨parts, proper, real, positive, rfl, rfl, rfl, small⟩ := h
  have signed : (if negative then ['-'] else []) ++ parts.text
      = NumberParts.text { parts with negative } := by
    rw [NumberParts.text, positive, if_neg Bool.false_ne_true, List.nil_append]
    rfl
  have proper' : NumberParts.Proper { parts with negative } := ⟨proper.1, proper.2, proper.3⟩
  rw [signed, JsonNumber.ofLexeme_eq_ofParts proper' real]
  exact JsonNumber.ofParts_eq fits small

theorem Spells.of_eq {text text' : List Char} {n n' : ℕ} {shift shift' : ℤ}
    (h : Spells text n shift) (sameText : text' = text) (sameDigits : n' = n)
    (sameShift : shift' = shift) : Spells text' n' shift' := by
  subst sameText sameDigits sameShift
  exact h

theorem spells_point {whole fraction : List Char} (hw : IsDigits whole) (hf : IsDigits fraction) :
    Spells (whole ++ '.' :: fraction) (digitsValue (whole ++ fraction)) (-fraction.length) := by
  refine ⟨⟨false, whole, some fraction, none⟩, ⟨hw, ?_, nofun⟩, .inl rfl, rfl, ?_, rfl, zero_sub _,
    nofun⟩
  · exact fun digits same => Option.some.inj same ▸ hf
  · exact congrArg (whole ++ '.' :: ·) (List.append_nil fraction)

theorem spells_exponent {whole digits : List Char} (fraction : Option (List Char)) (below : Bool)
    (hw : IsDigits whole) (hf : ∀ digits ∈ fraction, IsDigits digits) (he : IsDigits digits)
    (small : digitsValue digits ≤ JsonNumber.greatestExponent) :
    Spells (whole ++ (NumberParts.fractionText fraction ++
        'e' :: (if below then '-' else '+') :: digits))
      (digitsValue (whole ++ fraction.getD []))
      (NumberParts.exponentValue (some (below, digits)) - (fraction.getD []).length) := by
  refine ⟨⟨false, whole, fraction, some (below, digits)⟩, ⟨hw, hf, ?_⟩, .inr rfl, rfl, rfl, rfl,
    rfl, ?_⟩
  · exact fun exponent same => Option.some.inj same ▸ he
  · exact fun exponent same => Option.some.inj same ▸ small

/-! ### Written decimals -/

theorem digitsValue_zeros (digits : List Char) (k : ℕ) :
    digitsValue (List.replicate k '0' ++ digits) = digitsValue digits := by
  rw [digitsValue_append, digitsValue_eq, Nat.ofDigitChars_replicate_zero, mul_zero]
  rfl

theorem digitsValue_append_zeros (digits : List Char) (k : ℕ) :
    digitsValue (digits ++ List.replicate k '0') = digitsValue digits * 10 ^ k := by
  rw [digitsValue_append, Nat.ofDigitChars_replicate_zero, mul_comm]

namespace NumberStyle

variable {style : NumberStyle} {digits : List Char} {leading : ℤ}

/-- In full, with the point among the digits or before them. -/
theorem spells_fullForm (h : IsDigits digits) (among : leading + 1 < digits.length) :
    Spells (style.fullForm digits leading) (digitsValue digits)
      (leading + 1 - digits.length) := by
  unfold fullForm
  by_cases negative : leading < 0
  · rw [if_pos negative]
    have all : IsDigits (List.replicate (-leading - 1).toNat '0' ++ digits) :=
      ⟨by simp [h.ne_nil], List.forall_mem_append.mpr ⟨fun c => isDigit_of_mem_replicate, h.all⟩⟩
    refine (spells_point isDigits_zero all).of_eq rfl ?_ ?_
    · exact (digitsValue_zeros digits ((-leading - 1).toNat + 1)).symm
    · rw [List.length_append, List.length_replicate]
      omega
  · dsimp only
    rw [if_neg negative, if_pos (by omega)]
    have whole : IsDigits (digits.take (leading.toNat + 1)) :=
      ⟨by simp [h.ne_nil], fun c mem => h.all c (List.mem_of_mem_take mem)⟩
    have fraction : IsDigits (digits.drop (leading.toNat + 1)) :=
      ⟨by rw [ne_eq, List.drop_eq_nil_iff]; omega, fun c mem => h.all c (List.mem_of_mem_drop mem)⟩
    refine (spells_point whole fraction).of_eq rfl ?_ ?_
    · rw [List.take_append_drop]
    · rw [List.length_drop]
      omega

/-- In full, with zeros behind the digits and behind the point. -/
theorem spells_fullForm_whole (point : style.pointZero = true) (h : IsDigits digits)
    (whole : digits.length ≤ leading + 1) : Spells (style.fullForm digits leading)
      (digitsValue digits * 10 ^ (leading + 2 - digits.length).toNat) (-1) := by
  have all : IsDigits (digits ++ List.replicate (leading.toNat + 1 - digits.length) '0') :=
    h.append fun c => isDigit_of_mem_replicate
  have length := List.length_pos_iff.mpr h.ne_nil
  have last : ['0'] = List.replicate 1 '0' := rfl
  unfold fullForm
  dsimp only
  rw [if_neg (by omega), if_neg (by omega), point, if_pos rfl]
  refine (spells_point all isDigits_zero).of_eq rfl ?_ rfl
  rw [last, digitsValue_append_zeros, digitsValue_append_zeros, mul_assoc, ← pow_add]
  congr 2
  omega

theorem spells_exponentForm (plus : style.plusSign = true) (h : IsDigits digits)
    (small : leading.natAbs ≤ JsonNumber.greatestExponent) :
    Spells (style.exponentForm digits leading) (digitsValue digits)
      (leading + 1 - digits.length) := by
  have mark : (if leading < 0 then ['e', '-'] else if style.plusSign then ['e', '+'] else ['e'])
      = ['e', if decide (leading < 0) then '-' else '+'] := by
    rw [plus, if_pos rfl]
    by_cases negative : leading < 0 <;> simp [negative]
  have value : NumberParts.exponentValue
      (some (decide (leading < 0), Nat.toDigits 10 leading.natAbs)) = leading := by
    dsimp only [NumberParts.exponentValue]
    simp only [digitsValue_toDigits, decide_eq_true_eq]
    split_ifs <;> omega
  have exponent := isDigits_toDigits leading.natAbs
  have small' : digitsValue (Nat.toDigits 10 leading.natAbs) ≤ JsonNumber.greatestExponent := by
    rwa [digitsValue_toDigits]
  unfold exponentForm
  dsimp only
  rw [mark, Nat.toList_repr]
  split
  · rename_i first second rest
    have whole : IsDigits [first] := ⟨by simp, fun c mem => h.all c (by simp_all)⟩
    have fraction : IsDigits (second :: rest) := ⟨by simp, fun c mem => h.all c (.tail _ mem)⟩
    refine (spells_exponent (some (second :: rest)) (decide (leading < 0)) whole
      (fun digits same => Option.some.inj same ▸ fraction) exponent small').of_eq ?_ rfl ?_
    · simp [NumberParts.fractionText]
    · rw [value, Option.getD_some, List.length_cons]
      push_cast
      ring
  · rename_i short
    refine (spells_exponent none (decide (leading < 0)) h nofun exponent small').of_eq ?_ ?_ ?_
    · simp [NumberParts.fractionText]
    · rw [Option.getD_none, List.append_nil]
    · rw [value]
      obtain ⟨c, rest, rfl, -⟩ := h.first
      cases rest with
      | nil => simp
      | cons second rest => exact absurd rfl (short c second rest)

/-- **A written decimal spells its number.** The digits are those of the decimal, or more
zeros follow them, but not many. -/
theorem spells_decimal (point : style.pointZero = true) (plus : style.plusSign = true)
    {least greatest : ℤ} (positional : style.positional = some (least, greatest)) {d : Decimal}
    (small : d.exponent.natAbs + (Nat.toDigits 10 d.digits).length ≤ JsonNumber.greatestExponent) :
    Spells (style.decimal d) d.digits d.exponent ∨
      ∃ k : ℕ, d.exponent = k ∧ d.digits * 10 ^ k < 10 ^ (greatest + 1).toNat ∧
        Spells (style.decimal d) (d.digits * 10 ^ (k + 1)) (-1) := by
  have all := isDigits_toDigits d.digits
  have length := List.length_pos_iff.mpr all.ne_nil
  unfold decimal
  rw [positional, Nat.toList_repr]
  dsimp only
  split_ifs with full
  · by_cases among : d.exponent + (Nat.toDigits 10 d.digits).length - 1 + 1
        < (Nat.toDigits 10 d.digits).length
    · refine .inl ((spells_fullForm all among).of_eq rfl ?_ (by ring))
      rw [digitsValue_toDigits]
    · obtain ⟨k, hk⟩ : ∃ k : ℕ, d.exponent = k := ⟨d.exponent.toNat, by omega⟩
      refine .inr ⟨k, hk, ?_, ?_⟩
      · have most : d.digits < 10 ^ (Nat.toDigits 10 d.digits).length :=
          (Nat.length_toDigits_le_iff (by norm_num) length).mp le_rfl
        calc d.digits * 10 ^ k < 10 ^ (Nat.toDigits 10 d.digits).length * 10 ^ k := by gcongr
          _ = 10 ^ ((Nat.toDigits 10 d.digits).length + k) := (pow_add _ _ _).symm
          _ ≤ 10 ^ (greatest + 1).toNat := Nat.pow_le_pow_right (by norm_num) (by omega)
      · refine (spells_fullForm_whole point all (by omega)).of_eq rfl ?_ rfl
        rw [digitsValue_toDigits]
        congr 2
        omega
  · refine .inl ((spells_exponentForm plus all (by omega)).of_eq rfl ?_ (by ring))
    rw [digitsValue_toDigits]

end NumberStyle

end DocSieve
