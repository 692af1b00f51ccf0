import DocSieve.Json.Parser
import DocSieve.Json.Printer

/-!
# Strings written and read again

Every character is escaped by itself, so a string is read back one character at a
time: the reader takes the escape of a character for the number of that character
(`units?_escape`), and the numbers of characters are halves of none, so that they make
the characters again (`joinUnits?_toNat`).

Key theorems: `JsonParser.string?_render`.
-/

namespace DocSieve

theorem hexValue?_hexDigit : ∀ {n : Nat}, n < 16 → hexValue? (hexDigit n) = some n := by
  decide

namespace JsonParser

variable (c : Char) (chars : List Char) (text : String) (rest : List Char)

/-- A character is escaped in one of three ways: by a letter, by its number, or not
at all. -/
theorem jsonEscape_cases :
    (∃ letter, jsonEscape c = ['\\', letter] ∧ escaped? letter = some c ∧ letter ≠ 'u') ∨
    (jsonEscape c = ['\\', 'u', '0', '0', hexDigit (c.toNat / 16), hexDigit (c.toNat % 16)] ∧
      c.toNat < 0x20) ∨
    (jsonEscape c = [c] ∧ c ≠ '"' ∧ c ≠ '\\' ∧ ¬ c.toNat < 0x20) := by
  by_cases quote : c = '"'
  · exact .inl ⟨'"', by subst quote; decide⟩
  by_cases backslash : c = '\\'
  · exact .inl ⟨'\\', by subst backslash; decide⟩
  by_cases backspace : c = '\x08'
  · exact .inl ⟨'b', by subst backspace; decide⟩
  by_cases formFeed : c = '\x0c'
  · exact .inl ⟨'f', by subst formFeed; decide⟩
  by_cases lineFeed : c = '\n'
  · exact .inl ⟨'n', by subst lineFeed; decide⟩
  by_cases carriageReturn : c = '\r'
  · exact .inl ⟨'r', by subst carriageReturn; decide⟩
  by_cases tab : c = '\t'
  · exact .inl ⟨'t', by subst tab; decide⟩
  unfold jsonEscape
  rw [if_neg quote, if_neg backslash, if_neg backspace, if_neg formFeed, if_neg lineFeed,
    if_neg carriageReturn, if_neg tab]
  by_cases control : c.toNat < 0x20
  · rw [if_pos control]
    exact .inr (.inl ⟨rfl, control⟩)
  · rw [if_neg control]
    exact .inr (.inr ⟨rfl, quote, backslash, control⟩)

theorem unit?_control {n : Nat} (control : n < 0x20) :
    unit? '0' '0' (hexDigit (n / 16)) (hexDigit (n % 16)) = some n := by
  have high := hexValue?_hexDigit (show n / 16 < 16 by omega)
  have low := hexValue?_hexDigit (show n % 16 < 16 by omega)
  have zero : hexValue? '0' = some 0 := by decide
  simp only [unit?, hexNumber?, List.foldlM, zero, high, low, Option.bind_eq_bind,
    Option.bind_some, Option.pure_def]
  congr
  omega

theorem units?_letter {letter : Char} (names : escaped? letter = some c) (other : letter ≠ 'u') :
    units? ('\\' :: letter :: rest)
      = (units? rest).map fun read => (c.toNat :: read.1, read.2) := by
  rw [units?.eq_def]
  split
  · contradiction
  · rename_i same
    cases same
  · rename_i same
    cases same
    contradiction
  · rename_i same
    cases same
    rw [names]
    cases units? rest <;> rfl
  · rename_i notLetter same
    cases same
    exact absurd rfl (notLetter _ _ rfl)

theorem units?_plain (notQuote : c ≠ '"') (notBackslash : c ≠ '\\')
    (notControl : ¬ c.toNat < 0x20) :
    units? (c :: rest) = (units? rest).map fun read => (c.toNat :: read.1, read.2) := by
  rw [units?]
  · simp only [notControl, notBackslash]
    cases units? rest <;> rfl
  all_goals
    intros
    simp_all

theorem units?_control (control : c.toNat < 0x20) :
    units? ('\\' :: 'u' :: '0' :: '0' :: hexDigit (c.toNat / 16) :: hexDigit (c.toNat % 16) :: rest)
      = (units? rest).map fun read => (c.toNat :: read.1, read.2) := by
  rw [units?, unit?_control control]
  cases units? rest <;> rfl

theorem units?_escape :
    units? (jsonEscape c ++ rest) = (units? rest).map fun read => (c.toNat :: read.1, read.2) := by
  obtain ⟨letter, eq, names, other⟩ | ⟨eq, control⟩ | ⟨eq, quote, backslash, control⟩ :=
    jsonEscape_cases c
  · rw [eq]
    exact units?_letter c rest names other
  · rw [eq]
    exact units?_control c rest control
  · rw [eq]
    exact units?_plain c rest quote backslash control

/-- An escaped text is read up to its closing quote. -/
theorem units?_flatMap_escape :
    units? (chars.flatMap jsonEscape ++ '"' :: rest) = some (chars.map Char.toNat, rest) := by
  induction chars with
  | nil => rw [List.flatMap_nil, List.nil_append, units?, List.map_nil]
  | cons c chars ih => rw [List.flatMap_cons, List.append_assoc, units?_escape, ih]; rfl

/-- No character is half of one. -/
theorem not_half : isHighHalf c.toNat = false ∧ isLowHalf c.toNat = false := by
  have valid : c.toNat < 0xd800 ∨ 0xdfff < c.toNat ∧ c.toNat < 0x110000 := c.valid
  simp only [isHighHalf, isLowHalf, Bool.and_eq_false_iff, decide_eq_false_iff_not]
  omega

/-- The numbers of characters make the characters. -/
theorem joinUnits?_toNat : joinUnits? (chars.map Char.toNat) = some chars := by
  induction chars with
  | nil => rw [List.map_nil, joinUnits?]
  | cons c chars ih =>
    rw [List.map_cons, joinUnits?.eq_def]
    simp [not_half c, ih]

/-- **A string is read back as the text that was written.** -/
theorem string?_render :
    string? (text.toList.flatMap jsonEscape ++ '"' :: rest) = some (.whole text, rest) := by
  simp [string?, units?_flatMap_escape, joinUnits?_toNat]

end JsonParser

end DocSieve
