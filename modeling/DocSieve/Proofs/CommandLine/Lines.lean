import DocSieve.CommandLine.Run
import DocSieve.Proofs.Json.Rereading
import DocSieve.Proofs.Text.Runs

/-!
# Result lines

Neither form of a decision holds a character that comes before the space: JSON and quoted
text escape them, and a number has none. So a line ends where its newline is, whatever the
names are. What is printed has as many lines as there are decisions, and printed as JSON it
is split at the newlines and read line by line as the same decisions.

Key definitions: `OneLine`, `printed`, `linesOf`.
Key theorems: `Decision.oneLine_text`, `linesOf_printed`, `lines_read_back`.
-/

namespace DocSieve

/-- No character comes before the space, so none ends a line or goes back to its start. -/
def OneLine (text : List Char) : Prop := ∀ c ∈ text, 0x20 ≤ c.toNat

theorem OneLine.newline_notMem {text : List Char} (h : OneLine text) : '\n' ∉ text :=
  fun mem => absurd (h _ mem) (by decide)

@[simp]
theorem oneLine_nil : OneLine [] := nofun

@[simp]
theorem oneLine_cons {c : Char} {text : List Char} :
    OneLine (c :: text) ↔ 0x20 ≤ c.toNat ∧ OneLine text := List.forall_mem_cons

@[simp]
theorem oneLine_append {text more : List Char} :
    OneLine (text ++ more) ↔ OneLine text ∧ OneLine more := List.forall_mem_append

theorem oneLine_flatMap {escape : Char → List Char} (h : ∀ c, OneLine (escape c))
    (chars : List Char) : OneLine (chars.flatMap escape) :=
  List.forall_mem_flatMap.mpr fun c _ => h c

theorem oneLine_intercalate {separator : List Char} {texts : List (List Char)}
    (between : OneLine separator) (h : ∀ text ∈ texts, OneLine text) :
    OneLine (separator.intercalate texts) := forall_mem_intercalate between h

/-! ### Digits -/

theorem oneLine_of_isDigit {digits : List Char} (h : ∀ c ∈ digits, c.isDigit = true) :
    OneLine digits := by
  intro c mem
  have digit := h c mem
  simp only [Char.isDigit, Bool.and_eq_true, decide_eq_true_eq] at digit
  exact Nat.le_trans (by decide) digit.1

theorem IsDigits.oneLine {digits : List Char} (h : IsDigits digits) : OneLine digits :=
  oneLine_of_isDigit h.all

theorem IsWhole.oneLine {whole : List Char} (h : IsWhole whole) : OneLine whole := by
  cases h with
  | zero => simp
  | led isLed => exact isLed.oneLine

theorem IsFraction.oneLine {fraction : List Char} (h : IsFraction fraction) :
    OneLine fraction := by
  cases h with
  | none => exact oneLine_nil
  | some all => exact oneLine_cons.mpr ⟨by decide, all.oneLine⟩

theorem IsExponent.oneLine {exponent : List Char} (h : IsExponent exponent) :
    OneLine exponent := by
  cases h with
  | none => exact oneLine_nil
  | some mark sign mark_mem sign_mem all =>
    simp only [List.mem_cons, List.not_mem_nil, or_false] at mark_mem sign_mem
    have marks : OneLine (mark :: sign) := by
      obtain rfl | rfl := mark_mem <;> obtain rfl | rfl | rfl := sign_mem <;> simp
    exact oneLine_append.mpr ⟨marks, all.oneLine⟩

theorem IsUnsigned.oneLine {text : List Char} (h : IsUnsigned text) : OneLine text := by
  obtain ⟨whole, fraction, exponent⟩ := h
  simp [whole.oneLine, fraction.oneLine, exponent.oneLine]

theorem IsNumeral.oneLine {text : List Char} (h : IsNumeral text) : OneLine text := by
  cases h with
  | positive isUnsigned => exact isUnsigned.oneLine
  | negative isUnsigned => exact oneLine_cons.mpr ⟨by decide, isUnsigned.oneLine⟩

theorem toNat_digitChar : ∀ {n : ℕ}, n < 16 → 0x20 ≤ (Nat.digitChar n).toNat := by decide

theorem oneLine_hexDigits (n : ℕ) : OneLine (hexDigits n) := by
  unfold hexDigits
  induction n using Nat.strongRecOn with
  | ind n ih =>
    by_cases small : n < 16
    · simp [Nat.toDigits_of_lt_base small, toNat_digitChar small]
    · rw [Nat.toDigits_of_base_le (by decide) (by omega)]
      simp [ih (n / 16) (by omega), toNat_digitChar (Nat.mod_lt n (by decide))]

/-! ### JSON -/

theorem oneLine_jsonEscape (c : Char) : OneLine (jsonEscape c) := by
  unfold jsonEscape
  iterate 7
    split
    · simp
  split
  · rename_i control
    have high : 0x20 ≤ (hexDigit (c.toNat / 16)).toNat := toNat_digitChar (by omega)
    have low : 0x20 ≤ (hexDigit (c.toNat % 16)).toNat := toNat_digitChar (by omega)
    simp [high, low]
  · rename_i visible
    simpa using visible

theorem JsonText.oneLine_render (text : JsonText) : OneLine text.render := by
  cases text with
  | whole text => simp [render, oneLine_flatMap oneLine_jsonEscape]
  | broken => simp [render]

theorem JsonValue.oneLine_renderItems {items : List JsonValue}
    (h : ∀ item ∈ items, OneLine item.renderChars) : OneLine (renderItems items) := by
  induction items with
  | nil => simp [renderItems]
  | cons item items ih =>
    have first := h item (.head _)
    have rest := ih fun item mem => h item (.tail _ mem)
    cases items <;> simp [renderItems, first, rest]

theorem JsonValue.oneLine_renderMembers {members : List (JsonText × JsonValue)}
    (h : ∀ member ∈ members, OneLine member.2.renderChars) : OneLine (renderMembers members) := by
  induction members with
  | nil => simp [renderMembers]
  | cons member members ih =>
    have first := h member (.head _)
    have rest := ih fun member mem => h member (.tail _ mem)
    cases members <;> simp [renderMembers, JsonText.oneLine_render, first, rest]

/-- **A value is written on one line**, however deep it is nested. -/
theorem JsonValue.Proper.oneLine {value : JsonValue} (proper : value.Proper) :
    OneLine value.renderChars := by
  induction proper with
  | null => simp [renderChars]
  | bool value => cases value <;> simp [renderChars]
  | number isNumeral => exact isNumeral.oneLine
  | string text => simp [renderChars, JsonText.oneLine_render]
  | array _ ih => simp [renderChars, oneLine_renderItems ih]
  | object _ _ ih => simp [renderChars, oneLine_renderMembers ih]

/-! ### Descriptions -/

theorem isPrintable_control : ∀ n : Fin 0x20, isPrintable (Char.ofNat n) = false := by
  decide +kernel

theorem toNat_of_isPrintable {c : Char} (h : isPrintable c = true) : 0x20 ≤ c.toNat := by
  by_contra! control
  have hidden := isPrintable_control ⟨c.toNat, control⟩
  rw [Char.ofNat_toNat, h] at hidden
  cases hidden

theorem oneLine_escapeChar (c : Char) : OneLine (escapeChar c) := by
  unfold escapeChar
  iterate 6
    split
    · simp
  split
  · simp [oneLine_hexDigits]
  · rename_i shown
    rw [Bool.not_eq_true, Bool.or_eq_false_iff, Bool.not_eq_false'] at shown
    simp [toNat_of_isPrintable shown.2]

theorem oneLine_quoted (text : String) : OneLine (quoted text).toList := by
  simp [quoted, oneLine_flatMap oneLine_escapeChar]

theorem oneLine_describeBool (b : Bool) : OneLine (describeBool b).toList := by
  cases b <;> simp [describeBool]

/-- A number is written on one line also when it is not finite. -/
theorem oneLine_diagnostic (x : Float32) : OneLine (diagnosticStyle.single x).toList := by
  unfold NumberStyle.single
  generalize x.toBits.toNat = bits
  by_cases finite : bits % BinaryFormat.single.signBit < BinaryFormat.single.infinity
  · exact (diagnosticStyle.isNumeral_text .single finite).oneLine
  · unfold NumberStyle.text
    dsimp only
    split
    · simp [diagnosticStyle]
    · rename_i top
      have sign : OneLine (if bits ≥ BinaryFormat.single.signBit then ['-'] else []) := by
        split <;> simp
      rw [if_pos (by omega)]
      simp [diagnosticStyle, sign]

theorem oneLine_describeRecord {name : String} {fields : List (String × String)}
    (title : OneLine name.toList)
    (h : ∀ field ∈ fields, OneLine field.1.toList ∧ OneLine field.2.toList) :
    OneLine (describeRecord name fields).toList := by
  have body : OneLine ([',', ' '].intercalate
      (fields.map fun field => (field.1 ++ ": " ++ field.2).toList)) :=
    oneLine_intercalate (by simp) (List.forall_mem_map.mpr fun field mem => by simp [h field mem])
  simpa [describeRecord, title, String.toList_intercalate, Function.comp_def] using body

/-! ### Decisions -/

/-- **Both forms of a decision stay on one line.** -/
theorem Decision.oneLine_text (d : Decision) (json : Bool) : OneLine (d.text json).toList := by
  cases json with
  | false =>
    refine oneLine_describeRecord (by simp) ?_
    simp [oneLine_quoted, oneLine_describeBool, oneLine_diagnostic]
  | true =>
    rw [text, if_pos rfl, JsonValue.render, String.toList_ofList]
    exact d.proper_toJson.oneLine

/-- What is printed of some decisions. -/
def printed (json : Bool) (decisions : List Decision) : String :=
  String.join (decisions.map (·.line json))

/-- The lines of a text: what stands before each newline. -/
def linesOf (text : String) : List String :=
  ((text.toList.splitOn '\n').dropLast).map String.ofList

variable (json : Bool) (decisions : List Decision)

theorem toList_printed_cons (d : Decision) :
    (printed json (d :: decisions)).toList
      = (d.text json).toList ++ '\n' :: (printed json decisions).toList := by
  simp [printed, Decision.line]

/-- Splitting what is printed gives the texts, and nothing behind the last newline. -/
theorem splitOn_printed : (printed json decisions).toList.splitOn '\n'
    = decisions.map (fun d => (d.text json).toList) ++ [[]] := by
  induction decisions with
  | nil => rfl
  | cons d decisions ih =>
    have apart := (d.oneLine_text json).newline_notMem
    rw [toList_printed_cons, List.splitOn_append_cons_self_of_not_mem apart, ih, List.map_cons,
      List.cons_append]

theorem linesOf_printed : linesOf (printed json decisions) = decisions.map (·.text json) := by
  simp [linesOf, splitOn_printed]

theorem count_printed : (printed json decisions).toList.count '\n' = decisions.length := by
  induction decisions with
  | nil => rfl
  | cons d decisions ih =>
    have apart := (d.oneLine_text json).newline_notMem
    rw [toList_printed_cons, List.count_append, List.count_eq_zero.mpr apart,
      List.count_cons_self, ih, Nat.zero_add, List.length_cons]

/-- What a run prints is what is printed of some decisions, and their number is told at its
end. -/
theorem runSieve_output (flags : Flags) (room : Option ℕ) (s : Sieve) : ∃ decisions s',
    (runSieve flags room s).output = printed flags.json decisions ∧
      (runSieve flags room s).log.getLast? = some (.complete decisions.length s') :=
  ⟨_, _, rfl, List.getLast?_concat⟩

/-- **A run prints as many lines as it tells at its end.** -/
theorem runSieve_lines (flags : Flags) (room : Option ℕ) (s : Sieve) : ∃ s',
    (runSieve flags room s).log.getLast?
      = some (.complete ((runSieve flags room s).output.toList.count '\n') s') := by
  obtain ⟨decisions, s', same, told⟩ := runSieve_output flags room s
  exact ⟨s', by rw [told, same, count_printed]⟩

theorem Decision.readAs_text_iff (d : Decision) :
    readAs ofJson? (d.text true) = some d ↔ d.similarity.isFinite = true := by
  rw [text, if_pos rfl]
  exact d.readsBack_iff

/-- **Result lines stand apart.** In either form each decision ends in a newline and holds no
other one, so that there are as many lines as decisions; and lines of JSON are read as the
decisions, in order, just when all similarities are finite. -/
theorem lines_read_back (decisions : List Decision) :
    (∀ json, (∀ d ∈ decisions, ∃ text, d.line json = text ++ "\n" ∧ '\n' ∉ text.toList) ∧
      (printed json decisions).toList.count '\n' = decisions.length) ∧
    ((linesOf (printed true decisions)).mapM (readAs Decision.ofJson?) = some decisions ↔
      ∀ d ∈ decisions, d.similarity.isFinite = true) := by
  refine ⟨fun json => ⟨fun d _ => ?_, count_printed json decisions⟩, ?_⟩
  · exact ⟨d.text json, rfl, (d.oneLine_text json).newline_notMem⟩
  · rw [linesOf_printed, mapM_eq_some_iff, List.map_map, List.map_inj_left]
    refine forall₂_congr fun d _ => ?_
    rw [Function.comp_apply, d.readAs_text_iff]

/-- Names of line ends, quotes, a backslash and other control characters. -/
theorem lines_read_back_control :
    (linesOf (printed true [⟨"a\nb\r", true, "\"\\", 0.25⟩,
      ⟨"\x00\u2028\n", false, "", 0⟩])).mapM (readAs Decision.ofJson?)
      = some [⟨"a\nb\r", true, "\"\\", 0.25⟩, ⟨"\x00\u2028\n", false, "", 0⟩] := by
  refine (lines_read_back _).2.mpr fun d mem => ?_
  simp only [List.mem_cons, List.not_mem_nil, or_false] at mem
  obtain rfl | rfl := mem <;> decide

end DocSieve
