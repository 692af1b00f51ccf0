import DocSieve.Proofs.Json.Types
import DocSieve.Proofs.Numeric.NotANumber

/-!
# Accepted records are read again

The reader takes more than the writer makes, and numbers beyond the range of single
precision become infinite, never NaN (`JsonValue.isNaN_single?`). What was read from any
text and is written is read as the same again, unless a number in it is infinite: that is
written as null and refused.

Key definitions: `readAs`.
Key theorems: `JsonValue.isNaN_single?`, `accepted_read_again`.
-/

namespace DocSieve

open BinaryFormat Double

/-! ### What is read is not NaN -/

theorem ordinary_powerOfTen : ∀ k : Fin (greatestPower + 1),
    ordinary (powerOfTen k).toModel.unpack = true := by
  decide +kernel

theorem ordinary_of_le {k : ℕ} (h : k ≤ greatestPower) :
    ordinary (powerOfTen k).toModel.unpack = true :=
  ordinary_powerOfTen ⟨k, Nat.lt_succ_of_le h⟩

theorem isNaN_naturalToDouble (n : ℕ) : (naturalToDouble n).isNaN = false :=
  isNaN_double64 false (roundRatio_le _ _ _)

theorem isNaN_scaleByTen {x y : Float} {exponent : ℤ} (numeric : x.isNaN = false)
    (h : scaleByTen x exponent = some y) : y.isNaN = false := by
  fun_induction scaleByTen x exponent with
  | case1 => cases h
  | case2 x exponent small nonneg product notInf =>
    exact Option.some.inj h ▸ isNaN_mul numeric (ordinary_of_le small)
  | case3 x exponent small negative =>
    cases h
    exact isNaN_div numeric (ordinary_of_le small)
  | case4 =>
    cases h
    exact numeric
  | case5 => cases h
  | case6 x exponent large nonzero negative ih =>
    exact ih (isNaN_div numeric (ordinary_of_le le_rfl)) h

theorem JsonNumber.isNaN_signed {negative : Bool} {r : Option Float} {x : Float}
    (numeric : ∀ y ∈ r, y.isNaN = false) (h : signed negative r = .real x) : x.isNaN = false := by
  cases r with
  | none => cases h
  | some y =>
    obtain rfl := JsonNumber.real.inj h
    split_ifs
    · exact Double.isNaN_neg (numeric y rfl)
    · exact numeric y rfl

theorem JsonNumber.isNaN_ofParts {parts : NumberParts} {x : Float}
    (h : ofParts parts = .real x) : x.isNaN = false := by
  unfold ofParts at h
  dsimp only at h
  have scaled {n : ℕ} {exponent : ℤ} (y : Float)
      (mem : y ∈ scaleByTen (naturalToDouble n) exponent) : y.isNaN = false :=
    isNaN_scaleByTen (isNaN_naturalToDouble n) mem
  split at h
  · exact isNaN_signed scaled h
  · split_ifs at h with beyond large
    · exact isNaN_signed (fun y mem => Option.some.inj mem ▸ by decide) h
    all_goals exact isNaN_signed scaled h

theorem JsonNumber.isNaN_ofLexeme {lexeme : List Char} {x : Float}
    (h : ofLexeme lexeme = .real x) : x.isNaN = false := by
  unfold ofLexeme at h
  dsimp only at h
  split_ifs at h
  · exact JsonNumber.real.inj h ▸ Double.isNaN_neg (isNaN_naturalToDouble _)
  · exact isNaN_ofParts h

/-- **No value is read as NaN.** -/
theorem JsonValue.isNaN_single? {v : JsonValue} {x : Float32} (h : v.single? = some x) :
    x.isNaN = false := by
  cases v with
  | number lexeme =>
    change (JsonNumber.ofLexeme lexeme).toSingle? = some x at h
    have natural (n : ℕ) : (naturalToSingle n).isNaN = false :=
      isNaN_single32 false (roundRatio_le _ _ _)
    cases stands : JsonNumber.ofLexeme lexeme with
    | word n =>
      rw [stands] at h
      exact Option.some.inj h ▸ natural _
    | negative n =>
      rw [stands] at h
      exact Option.some.inj h ▸ DocSieve.isNaN_neg (natural _)
    | real y =>
      rw [stands] at h
      exact Option.some.inj h ▸ isNaN_narrow (JsonNumber.isNaN_ofLexeme stands)
    | outOfRange =>
      rw [stands] at h
      cases h
  | _ => cases h

theorem isFinite_eq_not_isInf {x : Float32} (numeric : x.isNaN = false) :
    x.isFinite = !x.isInf := by
  change x.toModel.unpack.isNaN = false at numeric
  change x.toModel.unpack.isFinite = !x.toModel.unpack.isInf
  cases parts : x.toModel.unpack with
  | notANumber => rw [parts] at numeric; cases numeric
  | _ => rfl

/-! ### Records -/

/-- What a text is read as. -/
def readAs {α : Type} (read : JsonValue → Option α) (text : String) : Option α :=
  (JsonValue.parse? text).bind read

section Records

variable {α : Type} {write : α → JsonValue} {read : JsonValue → Option α} {a : α}

/-- What is written is read as the same or refused, if that is so of its value. -/
theorem readAs_render {infinite : Bool} (proper : (write a).Proper)
    (back : infinite = false → ReadsBack write read a)
    (refused : ∀ b, read (write a) = some b → infinite = false) :
    readAs read (write a).render = if infinite then none else some a := by
  cases infinite with
  | false => exact back rfl
  | true =>
    rw [readAs, JsonValue.parse?_render proper, if_pos rfl]
    exact Option.eq_none_iff_forall_ne_some.mpr fun b same => nomatch refused b same

theorem exists_of_readAs {text : String} (h : readAs read text = some a) :
    ∃ j, read j = some a := by
  obtain ⟨j, -, accepted⟩ := Option.bind_eq_some_iff.mp h
  exact ⟨j, accepted⟩

end Records

open JsonValue

/-- A number that is not finite is written as null, and null is no number. -/
theorem JsonValue.isInf_of_single?_ofSingle {x y : Float32}
    (h : (ofSingle x).single? = some y) : x.isInf = false := by
  by_cases finite : x.isFinite = true
  · rw [isFinite_eq_not_isInf (Single.isNaN_of_isFinite finite)] at finite
    exact Bool.not_eq_true' _ |>.mp finite
  · rw [ofSingle, if_neg finite] at h
    cases h

theorem exists_of_mem_items? {α : Type} {read : JsonValue → Option α} {v : JsonValue} {l : List α}
    (h : v.items? read = some l) {a : α} (mem : a ∈ l) : ∃ j, read j = some a := by
  cases v with
  | array items =>
    have same := mapM_eq_some_iff.mp (show items.mapM read = some l from h)
    obtain ⟨j, -, accepted⟩ := List.mem_map.mp (same ▸ List.mem_map_of_mem (f := some) mem)
    exact ⟨j, accepted⟩
  | _ => cases h

theorem eq_or_exists_of_orDefault {V α : Type} {read : V → Option α} {absent a : α}
    {field : Option V} (h : Format.orDefault read absent field = some a) :
    a = absent ∨ ∃ v, read v = some a := by
  cases field with
  | none => exact .inl (Option.some.inj h).symm
  | some v => exact .inr ⟨v, h⟩

theorem EmbeddedDocument.isNaN_of_ofJson? {j : JsonValue} {d : EmbeddedDocument}
    (h : ofJson? j = some d) : ∀ x ∈ d.embedding, x.isNaN = false := by
  unfold ofJson? at h
  split at h
  · simp only [Option.bind_eq_bind, Option.bind_eq_some_iff, Option.pure_def,
      Option.some.injEq] at h
    obtain ⟨id, -, components, items, rfl⟩ := h
    intro x mem
    obtain ⟨j, read⟩ := exists_of_mem_items? items (List.mem_toArray.mp mem)
    exact isNaN_single? read
  · cases h

theorem Decision.isNaN_of_ofJson? {j : JsonValue} {d : Decision} (h : ofJson? j = some d) :
    d.similarity.isNaN = false := by
  unfold ofJson? at h
  split at h
  · simp only [Option.bind_eq_bind, Option.bind_eq_some_iff, Option.pure_def,
      Option.some.injEq] at h
    obtain ⟨id, -, isDuplicate, -, nearest, -, similarity, read, rfl⟩ := h
    exact isNaN_single? read
  · cases h

theorem IndexConfig.isNaN_default : default.threshold.isNaN = false := by decide

theorem IndexConfig.isNaN_of_read? {j : JsonValue} {c : IndexConfig}
    (h : read? jsonFormat j = some c) : c.threshold.isNaN = false := by
  unfold read? at h
  split at h
  · simp only [Option.bind_eq_bind, Option.bind_eq_some_iff, Option.pure_def,
      Option.some.injEq] at h
    obtain ⟨threshold, read, capacity, -, rfl⟩ := h
    rcases eq_or_exists_of_orDefault read with rfl | ⟨v, read⟩
    · exact isNaN_default
    · exact isNaN_single? read
  · cases h

theorem Config.isNaN_of_ofJson? {j : JsonValue} {c : Config} (h : ofJson? j = some c) :
    c.index.threshold.isNaN = false := by
  unfold ofJson? read? at h
  split at h
  · simp only [Option.bind_eq_bind, Option.bind_eq_some_iff, Option.pure_def,
      Option.some.injEq] at h
    obtain ⟨general, -, load, -, stages, -, embedding, -, index, read, metrics, -, rfl⟩ := h
    rcases eq_or_exists_of_orDefault read with rfl | ⟨v, read⟩
    · exact IndexConfig.isNaN_default
    · exact IndexConfig.isNaN_of_read? read
  · cases h

/-! ### Reading again -/

theorem EmbeddedDocument.readAs_render {j : JsonValue} {d : EmbeddedDocument}
    (h : ofJson? j = some d) : readAs ofJson? d.toJson.render
      = if d.embedding.any Float32.isInf then none else some d := by
  have numeric := isNaN_of_ofJson? h
  refine DocSieve.readAs_render d.proper_toJson (fun finite => ?_) fun d' accepted => ?_
  · rw [Array.any_eq_false'] at finite
    refine d.readsBack_iff.mpr fun x mem => ?_
    rw [isFinite_eq_not_isInf (numeric x mem), Bool.not_eq_true _ |>.mp (finite x mem)]
    rfl
  · rw [ofJson?, d.fields_toJson] at accepted
    simp only [text?_ofText, Option.bind_eq_bind, Option.bind_some, Option.bind_eq_some_iff,
      Option.pure_def, Option.some.injEq] at accepted
    obtain ⟨components, items, -⟩ := accepted
    have same := mapM_eq_some_iff.mp items
    rw [Array.any_eq_false']
    intro x mem
    have written : single? (ofSingle x) ∈ components.map some :=
      same ▸ List.mem_map_of_mem (List.mem_map_of_mem (Array.mem_toList_iff.mpr mem))
    obtain ⟨y, -, read⟩ := List.mem_map.mp written
    rw [isInf_of_single?_ofSingle read.symm]
    exact Bool.false_ne_true

theorem Decision.readAs_render {j : JsonValue} {d : Decision} (h : ofJson? j = some d) :
    readAs ofJson? d.toJson.render = if d.similarity.isInf then none else some d := by
  have numeric := isNaN_of_ofJson? h
  refine DocSieve.readAs_render d.proper_toJson (fun finite => ?_) fun d' accepted => ?_
  · rw [d.readsBack_iff, isFinite_eq_not_isInf numeric, finite]
    rfl
  · rw [ofJson?, d.fields_toJson] at accepted
    simp only [text?_ofText, Option.bind_eq_bind, Option.bind_some, Option.bind_eq_some_iff,
      Option.pure_def, Option.some.injEq] at accepted
    obtain ⟨-, -, similarity, read, -⟩ := accepted
    exact isInf_of_single?_ofSingle read

theorem IndexConfig.isInf_of_read?_record {c c' : IndexConfig}
    (h : read? jsonFormat (record [("dedup_threshold", ofSingle c.threshold),
      ("initial_capacity", ofWord c.initialCapacity)]) = some c') : c.threshold.isInf = false := by
  have fields : (record [("dedup_threshold", ofSingle c.threshold),
      ("initial_capacity", ofWord c.initialCapacity)]).fields
      ["dedup_threshold", "initial_capacity"]
      = some [some (ofSingle c.threshold), some (ofWord c.initialCapacity)] :=
    fields_record rfl (by decide) rfl
  rw [read?, jsonFormat_fields, fields] at h
  obtain ⟨threshold, read, -⟩ := Option.bind_eq_some_iff.mp h
  exact isInf_of_single?_ofSingle read

theorem Config.readAs_render {j : JsonValue} {c : Config} (h : ofJson? j = some c) :
    readAs ofJson? c.toJson.render = if c.index.threshold.isInf then none else some c := by
  have numeric := isNaN_of_ofJson? h
  refine DocSieve.readAs_render c.proper_toJson (fun finite => ?_) fun d' accepted => ?_
  · rw [c.readsBack_iff, isFinite_eq_not_isInf numeric, finite]
    rfl
  · rw [ofJson?, read?, jsonFormat_fields, c.fields_toJson] at accepted
    simp only [Format.orDefault, GeneralConfig.read?_record, LoadConfig.read?_toJson,
      StagesConfig.read?_toJson, EmbeddingConfig.read?_record, ReportConfig.read?_record,
      Option.bind_eq_bind, Option.bind_some, Option.bind_eq_some_iff] at accepted
    obtain ⟨index, read, -⟩ := accepted
    exact IndexConfig.isInf_of_read?_record read

/-- **What was read from any text is read again from the text that is written of it**,
unless a number in it is infinite; then the written text is refused. -/
theorem accepted_read_again :
    (∀ text d, readAs EmbeddedDocument.ofJson? text = some d →
      readAs EmbeddedDocument.ofJson? d.toJson.render
        = if d.embedding.any Float32.isInf then none else some d) ∧
    (∀ text d, readAs Decision.ofJson? text = some d →
      readAs Decision.ofJson? d.toJson.render = if d.similarity.isInf then none else some d) ∧
    (∀ text c, readAs Config.ofJson? text = some c →
      readAs Config.ofJson? c.toJson.render
        = if c.index.threshold.isInf then none else some c) := by
  refine ⟨fun text d h => ?_, fun text d h => ?_, fun text c h => ?_⟩
  · obtain ⟨j, accepted⟩ := exists_of_readAs h
    exact EmbeddedDocument.readAs_render accepted
  · obtain ⟨j, accepted⟩ := exists_of_readAs h
    exact Decision.readAs_render accepted
  · obtain ⟨j, accepted⟩ := exists_of_readAs h
    exact Config.readAs_render accepted

theorem exists_read_again {α : Type} {o : Option α} {infinite : α → Bool} {again : α → Option α}
    (h : o.map infinite = some false)
    (same : ∀ a, o = some a → again a = if infinite a then none else some a) :
    ∃ a, o = some a ∧ again a = some a := by
  obtain ⟨a, accepted, finite⟩ := Option.map_eq_some_iff.mp h
  refine ⟨a, accepted, ?_⟩
  rw [same a accepted, finite]
  rfl

/-- A vector whose fields stand in another order beside one that is skipped, and with an
integer and a number of many digits; a decision from an array; a configuration with one
setting. -/
theorem accepted_read_again_forms :
    (∃ d, readAs EmbeddedDocument.ofJson?
        "\x7b\"embedding\":[1,0.300000000000000004,-2e-7],\"by\":[0],\"id\":\"a\"\x7d" = some d ∧
      readAs EmbeddedDocument.ofJson? d.toJson.render = some d) ∧
    (∃ d, readAs Decision.ofJson? "[\"a\",true,\"b\",1]" = some d ∧
      readAs Decision.ofJson? d.toJson.render = some d) ∧
    (∃ c, readAs Config.ofJson? "\x7b\"index\":[0.5]\x7d" = some c ∧
      readAs Config.ofJson? c.toJson.render = some c) := by
  obtain ⟨embedded, decision, config⟩ := accepted_read_again
  exact ⟨exists_read_again (by decide +kernel) (embedded _),
    exists_read_again (by decide +kernel) (decision _),
    exists_read_again (by decide +kernel) (config _)⟩

/-- A similarity beyond the range is accepted, as infinite, and its text is refused. -/
theorem beyond_range_refused :
    ∃ d, readAs Decision.ofJson? "[\"a\",false,\"b\",1e39]" = some d ∧
      d.similarity.isInf = true ∧ readAs Decision.ofJson? d.toJson.render = none := by
  have refused : (readAs Decision.ofJson? "[\"a\",false,\"b\",1e39]").map
      (fun d => (d.similarity.isInf, (readAs Decision.ofJson? d.toJson.render).isNone))
      = some (true, true) := by
    decide +kernel
  obtain ⟨d, accepted, parts⟩ := Option.map_eq_some_iff.mp refused
  obtain ⟨infinite, none⟩ := Prod.mk.inj parts
  exact ⟨d, accepted, infinite, Option.isNone_iff_eq_none.mp none⟩

end DocSieve
