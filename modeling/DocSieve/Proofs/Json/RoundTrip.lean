import DocSieve.Proofs.Json.Number
import DocSieve.Proofs.Json.Text

/-!
# Values written and read again

The reader undoes the writer (`JsonValue.parse?_render`): a value whose numbers are
numerals and whose strings are texts is read back from its text, however deep it is
nested. Each construct is read up to its own end, whatever follows it; only a number
needs something behind it that is no part of a number, and what follows a value in a
text is a comma, a bracket or a brace.

Key definitions: `JsonValue.Proper`, `JsonParser.Reads`.
Key theorems: `JsonParser.reads`, `JsonValue.parse?_render`.
-/

namespace DocSieve

open JsonValue

/-- Numbers are numerals and strings are texts, all the way down. -/
inductive JsonValue.Proper : JsonValue → Prop
  | null : Proper .null
  | bool (value : Bool) : Proper (.bool value)
  | number {lexeme : List Char} (isNumeral : IsNumeral lexeme) : Proper (.number lexeme)
  | string (text : String) : Proper (.string (.whole text))
  | array {items : List JsonValue} (items_proper : ∀ item ∈ items, Proper item) :
      Proper (.array items)
  | object {members : List (JsonText × JsonValue)}
      (names_whole : ∀ member ∈ members, member.1 ≠ .broken)
      (values_proper : ∀ member ∈ members, Proper member.2) : Proper (.object members)

namespace JsonParser

/-- The value is read from its text with enough fuel, whatever follows. -/
def Reads (value : JsonValue) : Prop :=
  ∀ (fuel : Nat) (rest : List Char), value.renderChars.length ≤ fuel → EndsNumeral rest →
    value? fuel (value.renderChars ++ rest) = some (value, rest)

/-- No text is empty, so that there is fuel to start with. -/
theorem Reads.intro {value : JsonValue} (nonempty : 0 < value.renderChars.length)
    (read : ∀ (fuel : Nat) (rest : List Char), value.renderChars.length ≤ fuel + 1 →
      EndsNumeral rest →
      value? (fuel + 1) (value.renderChars ++ rest) = some (value, rest)) : Reads value := by
  intro fuel rest enough ends
  cases fuel with
  | zero => omega
  | succ fuel => exact read fuel rest enough ends

/-! ### First characters -/

/-- The text starts with a lexeme that does not close a list. -/
structure Opens (text : List Char) : Prop where
  skip_eq : ∀ rest, skip (text ++ rest) = text ++ rest
  notClosing : ∀ rest more, text ++ rest ≠ ']' :: more

theorem opens_cons {c : Char} {text : List Char} (visible : isBlank c = false)
    (notClosing : c ≠ ']') : Opens (c :: text) where
  skip_eq rest := by simp [skip, visible]
  notClosing rest more same := notClosing (List.cons.inj same).1

theorem Opens.append {text : List Char} (h : Opens text) (more : List Char) :
    Opens (text ++ more) where
  skip_eq rest := by rw [List.append_assoc, h.skip_eq]
  notClosing rest tail := by rw [List.append_assoc]; exact h.notClosing _ _

/-- What a numeral starts with starts nothing else. -/
theorem ne_of_first {c : Char} (first : c = '-' ∨ c.isDigit = true) {mark : Char}
    (other : ¬ (mark = '-' ∨ mark.isDigit = true)) : c ≠ mark := by
  rintro rfl
  exact other first

theorem opens_numeral {lexeme : List Char} (h : IsNumeral lexeme) : Opens lexeme := by
  obtain ⟨c, rest, rfl, first⟩ := h.first
  have visible : isBlank c = false := by
    simp only [isBlank, Bool.or_eq_false_iff, decide_eq_false_iff_not]
    exact ⟨⟨⟨ne_of_first first (by decide), ne_of_first first (by decide)⟩,
      ne_of_first first (by decide)⟩, ne_of_first first (by decide)⟩
  exact opens_cons visible (ne_of_first first (by decide))

theorem opens_render {value : JsonValue} (proper : value.Proper) : Opens value.renderChars := by
  cases proper with
  | null => exact opens_cons rfl (by decide)
  | bool value => cases value <;> exact opens_cons rfl (by decide)
  | number isNumeral => exact opens_numeral isNumeral
  | string text => exact opens_cons rfl (by decide)
  | array => exact opens_cons rfl (by decide)
  | object => exact opens_cons rfl (by decide)

/-! ### Values -/

theorem reads_number {lexeme : List Char} (h : IsNumeral lexeme) : Reads (.number lexeme) := by
  obtain ⟨c, more, rfl, first⟩ := h.first
  refine .intro (Nat.succ_pos _) fun fuel rest _ ends => ?_
  have visible := (opens_numeral h).skip_eq rest
  have read := number?_append h ends
  have other {mark : Char} (other : ¬ (mark = '-' ∨ mark.isDigit = true)) {text : List Char} :
      c :: more ++ rest ≠ mark :: text :=
    fun same => ne_of_first first other (List.cons.inj same).1
  rw [renderChars, value?, visible]
  split
  case h_7 => rw [read]; rfl
  all_goals
    rename_i same
    exact absurd same (other (by decide))

/-- What closes an item or stands between two ends a number. -/
theorem endsNumeral_cons {mark : Char} {text : List Char} (h : mark ∈ [',', ']', '\x7d']) :
    EndsNumeral (mark :: text) := by
  intro c first
  cases first
  simp only [List.mem_cons, List.not_mem_nil, or_false] at h
  obtain rfl | rfl | rfl := h <;> exact ⟨rfl, by decide, by decide⟩

theorem items?_render {items : List JsonValue} (reads : ∀ item ∈ items, Reads item)
    (some_item : items ≠ []) (fuel : Nat) (rest : List Char)
    (enough : (renderItems items).length ≤ fuel) :
    items? fuel (renderItems items ++ rest) = some (items, rest) := by
  induction items generalizing fuel with
  | nil => contradiction
  | cons item tail ih =>
    have readsItem := reads item (.head _)
    cases tail with
    | nil =>
      simp only [renderItems, List.length_append, List.length_singleton] at enough
      obtain ⟨fuel, rfl⟩ := Nat.exists_eq_succ_of_ne_zero (show fuel ≠ 0 by omega)
      have read := readsItem fuel (']' :: rest) (by omega) (endsNumeral_cons (by decide))
      rw [renderItems, List.append_assoc, items?]
      simp [read, skip, isBlank]
    | cons next more =>
      simp only [renderItems, List.length_append, List.length_cons] at enough
      obtain ⟨fuel, rfl⟩ := Nat.exists_eq_succ_of_ne_zero (show fuel ≠ 0 by omega)
      have read := readsItem fuel (',' :: (renderItems (next :: more) ++ rest)) (by omega)
        (endsNumeral_cons (by decide))
      have readMore := ih (fun item mem => reads item (.tail _ mem)) (by simp) fuel (by omega)
      rw [renderItems, List.append_assoc, items?]
      · simp [read, readMore, skip, isBlank]
      · simp

theorem members?_render {members : List (JsonText × JsonValue)}
    (names_whole : ∀ member ∈ members, member.1 ≠ .broken)
    (reads : ∀ member ∈ members, Reads member.2)
    (some_member : members ≠ []) (fuel : Nat) (rest : List Char)
    (enough : (renderMembers members).length ≤ fuel) :
    members? fuel (renderMembers members ++ rest) = some (members, rest) := by
  induction members generalizing fuel with
  | nil => contradiction
  | cons member tail ih =>
    obtain ⟨name, value⟩ := member
    have readsValue : Reads value := reads (name, value) (.head _)
    have whole : name ≠ .broken := names_whole (name, value) (.head _)
    cases name with
    | broken => contradiction
    | whole name =>
      cases tail with
      | nil =>
        simp only [renderMembers, List.length_append, List.length_cons, List.length_nil] at enough
        obtain ⟨fuel, rfl⟩ := Nat.exists_eq_succ_of_ne_zero (show fuel ≠ 0 by omega)
        have read := readsValue fuel ('\x7d' :: rest) (by omega) (endsNumeral_cons (by decide))
        rw [renderMembers, members?]
        simp [read, skip, isBlank, JsonText.render, string?_render]
      | cons next more =>
        simp only [renderMembers, List.length_append, List.length_cons] at enough
        obtain ⟨fuel, rfl⟩ := Nat.exists_eq_succ_of_ne_zero (show fuel ≠ 0 by omega)
        have read := readsValue fuel (',' :: (renderMembers (next :: more) ++ rest)) (by omega)
          (endsNumeral_cons (by decide))
        have readMore := ih (fun member mem => names_whole member (.tail _ mem))
          (fun member mem => reads member (.tail _ mem)) (by simp) fuel (by omega)
        rw [renderMembers, members?]
        · simp [read, readMore, skip, isBlank, JsonText.render, string?_render]
        · simp

/-- An array that does not end at once has items. -/
theorem value?_array {fuel : Nat} {text : List Char} (goesOn : ∀ more, skip text ≠ ']' :: more) :
    value? (fuel + 1) ('[' :: text)
      = (items? fuel (skip text)).map fun read => (array read.1, read.2) := by
  have visible : skip ('[' :: text) = '[' :: text := rfl
  rw [value?, visible]
  split
  case h_5 rest same =>
    obtain ⟨-, rfl⟩ := List.cons.inj same
    split
    · exact absurd ‹_› (goesOn _)
    · cases items? fuel (skip text) <;> rfl
  case h_7 =>
    rename_i notArray _
    exact absurd rfl (notArray text)
  all_goals
    rename_i same
    exact absurd (List.cons.inj same).1 (by decide)

/-- An object that does not end at once has members. -/
theorem value?_object {fuel : Nat} {text : List Char}
    (goesOn : ∀ more, skip text ≠ '\x7d' :: more) :
    value? (fuel + 1) ('\x7b' :: text)
      = (members? fuel (skip text)).map fun read => (object read.1, read.2) := by
  have visible : skip ('\x7b' :: text) = '\x7b' :: text := rfl
  rw [value?, visible]
  split
  case h_6 rest same =>
    obtain ⟨-, rfl⟩ := List.cons.inj same
    split
    · exact absurd ‹_› (goesOn _)
    · cases members? fuel (skip text) <;> rfl
  case h_7 =>
    rename_i notObject
    exact absurd rfl (notObject text)
  all_goals
    rename_i same
    exact absurd (List.cons.inj same).1 (by decide)

theorem reads_array {items : List JsonValue} (proper : ∀ item ∈ items, item.Proper)
    (reads : ∀ item ∈ items, Reads item) : Reads (.array items) := by
  refine .intro (Nat.succ_pos _) fun fuel rest enough _ => ?_
  cases items with
  | nil => rfl
  | cons item tail =>
    have opens : Opens (renderItems (item :: tail)) := by
      have first := opens_render (proper item (.head _))
      cases tail <;> exact first.append _
    have read := items?_render reads (by simp) fuel rest (Nat.le_of_succ_le_succ enough)
    rw [renderChars, List.cons_append, value?_array, opens.skip_eq, read]
    · rfl
    · intro more same
      rw [opens.skip_eq] at same
      exact opens.notClosing _ _ same

theorem reads_object {members : List (JsonText × JsonValue)}
    (names_whole : ∀ member ∈ members, member.1 ≠ .broken)
    (reads : ∀ member ∈ members, Reads member.2) : Reads (.object members) := by
  refine .intro (Nat.succ_pos _) fun fuel rest enough _ => ?_
  cases members with
  | nil => rfl
  | cons member tail =>
    have read := members?_render names_whole reads (by simp) fuel rest
      (Nat.le_of_succ_le_succ enough)
    obtain ⟨more, quote⟩ : ∃ more, renderMembers (member :: tail) ++ rest = '"' :: more := by
      obtain ⟨name, value⟩ := member
      cases name <;> cases tail <;> exact ⟨_, rfl⟩
    have visible : skip ('"' :: more) = '"' :: more := rfl
    rw [quote] at read
    rw [renderChars, List.cons_append, quote, value?_object, visible, read]
    · rfl
    · exact fun more same => absurd (List.cons.inj (visible ▸ same)).1 (by decide)

/-- **A proper value is read from its text.** -/
theorem reads {value : JsonValue} (proper : value.Proper) : Reads value := by
  induction proper with
  | null => exact .intro (Nat.succ_pos _) fun _ _ _ _ => rfl
  | bool value => cases value <;> exact .intro (Nat.succ_pos _) fun _ _ _ _ => rfl
  | number isNumeral => exact reads_number isNumeral
  | string text =>
    refine .intro (Nat.succ_pos _) fun fuel rest _ _ => ?_
    simp [renderChars, JsonText.render, value?, skip, isBlank, string?_render]
  | array items_proper reads => exact reads_array items_proper reads
  | object names_whole values_proper reads => exact reads_object names_whole reads

end JsonParser

/-- **The reader undoes the writer.** -/
theorem JsonValue.parse?_render {value : JsonValue} (proper : value.Proper) :
    parse? value.render = some value := by
  have text : value.render.toList = value.renderChars := String.toList_ofList
  have enough : value.renderChars.length ≤ 2 * value.render.length + 2 := by
    rw [← text, String.length_toList]
    omega
  have read := JsonParser.reads proper (2 * value.render.length + 2) [] enough nofun
  unfold parse?
  rw [text, ← value.renderChars.append_nil, read]
  rfl

end DocSieve
