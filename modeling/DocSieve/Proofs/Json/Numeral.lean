import DocSieve.Json.Parser
import Mathlib.Data.List.TakeDrop

/-!
# Numerals

The lexemes of numbers, piece by piece: a sign or none, a zero or digits that start
with another one, a fraction or none, an exponent or none. The reader takes each piece
whole, as long as what follows cannot be a part of it, and so it takes the numeral.

Key definitions: `IsNumeral`, `EndsNumeral`.
Key theorems: `JsonParser.number?_append`.
-/

namespace DocSieve

/-- At least one digit and nothing else. -/
structure IsDigits (text : List Char) : Prop where
  ne_nil : text ≠ []
  all : ∀ c ∈ text, c.isDigit = true

/-- Digits that do not start with a zero. -/
structure IsLed (text : List Char) : Prop extends IsDigits text where
  notZero : '0' ∉ text.head?

/-- The digits before the point: only a zero alone starts with one. -/
inductive IsWhole : List Char → Prop
  | zero : IsWhole ['0']
  | led {text : List Char} (isLed : IsLed text) : IsWhole text

/-- A fraction or none. -/
inductive IsFraction : List Char → Prop
  | none : IsFraction []
  | some {digits : List Char} (all : IsDigits digits) : IsFraction ('.' :: digits)

/-- An exponent or none. -/
inductive IsExponent : List Char → Prop
  | none : IsExponent []
  | some (mark : Char) (sign : List Char) {digits : List Char} (mark_mem : mark ∈ ['e', 'E'])
      (sign_mem : sign ∈ [[], ['+'], ['-']]) (all : IsDigits digits) :
      IsExponent (mark :: sign ++ digits)

/-- A number without a sign. -/
inductive IsUnsigned : List Char → Prop
  | mk {whole fraction exponent : List Char} (isWhole : IsWhole whole)
      (isFraction : IsFraction fraction) (isExponent : IsExponent exponent) :
      IsUnsigned (whole ++ fraction ++ exponent)

/-- The lexeme of a number. -/
inductive IsNumeral : List Char → Prop
  | positive {text : List Char} (isUnsigned : IsUnsigned text) : IsNumeral text
  | negative {text : List Char} (isUnsigned : IsUnsigned text) : IsNumeral ('-' :: text)

/-- The text does not start with a digit. -/
def EndsDigits (rest : List Char) : Prop := ∀ c ∈ rest.head?, c.isDigit = false

/-- The text does not start with what could go on with a number. -/
def EndsNumeral (rest : List Char) : Prop :=
  ∀ c ∈ rest.head?, c.isDigit = false ∧ c ≠ '.' ∧ c ∉ ['e', 'E']

theorem EndsNumeral.endsDigits {rest : List Char} (ends : EndsNumeral rest) : EndsDigits rest :=
  fun c first => (ends c first).1

/-! ### The first character -/

theorem ne_of_isDigit {c mark : Char} (digit : c.isDigit = true) (other : mark.isDigit = false) :
    c ≠ mark := by
  rintro rfl
  simp [digit] at other

theorem IsDigits.first {text : List Char} (h : IsDigits text) :
    ∃ c rest, text = c :: rest ∧ c.isDigit = true := by
  cases text with
  | nil => exact absurd rfl h.ne_nil
  | cons c rest => exact ⟨c, rest, rfl, h.all c (.head _)⟩

theorem IsWhole.first {text : List Char} (h : IsWhole text) :
    ∃ c rest, text = c :: rest ∧ c.isDigit = true := by
  cases h with
  | zero => exact ⟨'0', [], rfl, rfl⟩
  | led isLed => exact isLed.first

theorem IsUnsigned.first {text : List Char} (h : IsUnsigned text) :
    ∃ c rest, text = c :: rest ∧ c.isDigit = true := by
  obtain ⟨isWhole, -, -⟩ := h
  obtain ⟨c, rest, rfl, digit⟩ := isWhole.first
  exact ⟨c, _, rfl, digit⟩

theorem IsNumeral.first {lexeme : List Char} (h : IsNumeral lexeme) :
    ∃ c rest, lexeme = c :: rest ∧ (c = '-' ∨ c.isDigit = true) := by
  cases h with
  | positive isUnsigned =>
    obtain ⟨c, rest, rfl, digit⟩ := isUnsigned.first
    exact ⟨c, rest, rfl, .inr digit⟩
  | negative isUnsigned => exact ⟨'-', _, rfl, .inl rfl⟩

/-- No piece behind the digits starts with one. -/
theorem IsExponent.endsDigits {exponent rest : List Char} (h : IsExponent exponent)
    (ends : EndsDigits rest) : EndsDigits (exponent ++ rest) := by
  cases h with
  | none => exact ends
  | some mark sign mark_mem =>
    simp only [List.mem_cons, List.not_mem_nil, or_false] at mark_mem
    obtain rfl | rfl := mark_mem <;> exact fun c first => Option.some.inj first ▸ rfl

theorem IsFraction.endsDigits {fraction rest : List Char} (h : IsFraction fraction)
    (ends : EndsDigits rest) : EndsDigits (fraction ++ rest) := by
  cases h with
  | none => exact ends
  | some all => exact fun c first => Option.some.inj first ▸ rfl

/-! ### Reading the pieces -/

theorem IsDigits.span_append {text rest : List Char} (h : IsDigits text)
    (ends : EndsDigits rest) : (text ++ rest).span Char.isDigit = (text, rest) := by
  have stops : rest.takeWhile Char.isDigit = [] ∧ rest.dropWhile Char.isDigit = rest := by
    cases rest with
    | nil => exact ⟨rfl, rfl⟩
    | cons c rest => simp [ends c rfl]
  rw [List.span_eq_takeWhile_dropWhile, List.takeWhile_append_of_pos h.all,
    List.dropWhile_append_of_pos h.all, stops.1, stops.2, List.append_nil]

namespace JsonParser

variable {text rest : List Char}

theorem digits?_append (h : IsDigits text) (ends : EndsDigits rest) :
    digits? (text ++ rest) = some (text, rest) := by
  unfold digits?
  rw [h.span_append ends]
  simp [h.ne_nil]

theorem whole?_append (h : IsWhole text) (ends : EndsDigits rest) :
    whole? (text ++ rest) = some (text, rest) := by
  cases h with
  | zero => rfl
  | led isLed =>
    obtain ⟨c, more, rfl, -⟩ := isLed.first
    have notZero : c ≠ '0' := fun same => isLed.notZero (by simp [same])
    rw [List.cons_append, whole?, ← List.cons_append, digits?_append isLed.toIsDigits ends]
    exact fun _ same => notZero (List.cons.inj same).1

theorem fraction?_append (h : IsFraction text) (ends : EndsDigits rest)
    (noPoint : '.' ∉ rest.head?) : fraction? (text ++ rest) = some (text, rest) := by
  cases h with
  | none =>
    cases rest with
    | nil => rfl
    | cons c rest =>
      have other : c ≠ '.' := fun same => noPoint (by simp [same])
      rw [List.nil_append, fraction?]
      exact fun _ same => other (List.cons.inj same).1
  | some all =>
    rw [List.cons_append, fraction?, digits?_append all ends]
    rfl

theorem exponentSign_append {sign : List Char} (sign_mem : sign ∈ [[], ['+'], ['-']])
    (h : IsDigits text) : exponentSign (sign ++ text ++ rest) = (sign, text ++ rest) := by
  simp only [List.mem_cons, List.not_mem_nil, or_false] at sign_mem
  obtain rfl | rfl | rfl := sign_mem
  · obtain ⟨c, more, rfl, digit⟩ := h.first
    rw [List.nil_append, List.cons_append, exponentSign]
    · exact fun _ same => ne_of_isDigit digit rfl (List.cons.inj same).1
    · exact fun _ same => ne_of_isDigit digit rfl (List.cons.inj same).1
  · rfl
  · rfl

theorem exponent?_append (h : IsExponent text) (ends : EndsNumeral rest) :
    exponent? (text ++ rest) = some (text, rest) := by
  cases h with
  | none =>
    cases rest with
    | nil => rfl
    | cons c rest =>
      have other := (ends c rfl).2.2
      rw [List.nil_append, exponent?]
      simp_all
  | some mark sign mark_mem sign_mem all =>
    have marked : (decide (mark = 'e') || decide (mark = 'E')) = true := by simpa using mark_mem
    rw [List.cons_append, List.cons_append, exponent?, if_pos marked,
      exponentSign_append sign_mem all]
    simp [digits?_append all ends.endsDigits]

/-- What goes on with an exponent or ends does not go on with a point. -/
theorem noPoint {exponent : List Char} (h : IsExponent exponent) (ends : EndsNumeral rest) :
    '.' ∉ (exponent ++ rest).head? := by
  cases h with
  | none => exact fun first => (ends '.' first).2.1 rfl
  | some mark sign mark_mem sign_mem all =>
    simp only [List.cons_append, List.head?_cons, Option.mem_some_iff]
    rintro rfl
    exact absurd mark_mem (by decide)

theorem unsigned_append (h : IsUnsigned text) (ends : EndsNumeral rest) (sign : List Char) :
    (do
      let (whole, rest) ← whole? (text ++ rest)
      let (fraction, rest) ← fraction? rest
      let (exponent, rest) ← exponent? rest
      return (sign ++ whole ++ fraction ++ exponent, rest)) = some (sign ++ text, rest) := by
  obtain ⟨isWhole, isFraction, isExponent⟩ := h
  have ends' := isExponent.endsDigits ends.endsDigits
  have readWhole := whole?_append isWhole (isFraction.endsDigits ends')
  have readFraction := fraction?_append isFraction ends' (noPoint isExponent ends)
  have readExponent := exponent?_append isExponent ends
  simp only [List.append_assoc]
  simp [readWhole, readFraction, readExponent]

/-- **A numeral is taken whole.** -/
theorem number?_append (h : IsNumeral text) (ends : EndsNumeral rest) :
    number? (text ++ rest) = some (text, rest) := by
  cases h with
  | positive isUnsigned =>
    have read := unsigned_append isUnsigned ends []
    obtain ⟨c, more, rfl, digit⟩ := isUnsigned.first
    unfold number?
    split
    rename_i signed
    split at signed
    · rename_i minus
      exact absurd (List.cons.inj minus).1 (ne_of_isDigit digit rfl)
    · cases signed
      exact read
  | negative isUnsigned => exact unsigned_append isUnsigned ends ['-']

end JsonParser

end DocSieve
