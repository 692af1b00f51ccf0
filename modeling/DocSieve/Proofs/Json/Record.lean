import DocSieve.Proofs.Json.RoundTrip

/-!
# Records written and read again

A record has a member for every field that is there. When the names of the fields
differ, asking for all of them gives every value back, and none for a field that was
left out (`JsonValue.fields_record`).

Key definitions: `JsonValue.present`, `ReadsBack`.
Key theorems: `JsonValue.fields_record`, `readsBack_iff`.
-/

namespace DocSieve

theorem mapM_eq_some_iff {α β : Type} {f : α → Option β} {l : List α} {m : List β} :
    l.mapM f = some m ↔ l.map f = m.map some := by
  induction l generalizing m with
  | nil => cases m <;> simp
  | cons a l ih => cases m <;> simp [ih, Option.bind_eq_some_iff]

namespace JsonValue

/-! ### Fields -/

/-- The members of a record whose fields may be left out. -/
def present (fields : List (String × Option JsonValue)) : List (String × JsonValue) :=
  fields.filterMap fun field => field.2.map (field.1, ·)

/-- The members with a name. -/
def named (name : String) (fields : List (String × Option JsonValue)) :
    List (JsonText × JsonValue) :=
  ((present fields).map fun member => (.whole member.1, member.2)).filter (·.1 == .whole name)

variable {name : String} {value : Option JsonValue} {entry : String × Option JsonValue}
  {entries : List (String × Option JsonValue)}

theorem named_cons_self :
    named name ((name, value) :: entries)
      = (value.map (.whole name, ·)).toList ++ named name entries := by
  cases value <;> simp [named, present]

theorem named_cons_of_ne (other : entry.1 ≠ name) :
    named name (entry :: entries) = named name entries := by
  obtain ⟨other, _ | _⟩ := entry <;> simp_all [named, present]

theorem named_eq_nil (absent : name ∉ entries.map Prod.fst) : named name entries = [] := by
  induction entries with
  | nil => rfl
  | cons entry entries ih =>
    rw [List.map_cons, List.mem_cons, not_or] at absent
    rw [named_cons_of_ne (Ne.symm absent.1), ih absent.2]

/-- Of differing names, each names the value of its own field. -/
theorem named_eq (nodup : (entries.map Prod.fst).Nodup) (mem : (name, value) ∈ entries) :
    named name entries = (value.map (.whole name, ·)).toList := by
  induction entries with
  | nil => contradiction
  | cons entry entries ih =>
    rw [List.map_cons, List.nodup_cons] at nodup
    rcases List.mem_cons.mp mem with rfl | mem
    · rw [named_cons_self, named_eq_nil nodup.1, List.append_nil]
    · have other : entry.1 ≠ name := by
        intro same
        exact nodup.1 (same ▸ List.mem_map_of_mem (f := Prod.fst) mem)
      rw [named_cons_of_ne other, ih nodup.2 mem]

/-- **The fields of a record are read back**, those that are there and those that are not. -/
theorem fields_record {j : JsonValue} {names : List String} {values : List (Option JsonValue)}
    (written : j = .record (present (names.zip values))) (nodup : names.Nodup)
    (same : names.length = values.length) : j.fields names = some values := by
  subst written
  have firsts : (names.zip values).map Prod.fst = names := List.map_fst_zip (Nat.le_of_eq same)
  have seconds : (names.zip values).map Prod.snd = values :=
    List.map_snd_zip (Nat.le_of_eq same.symm)
  generalize names.zip values = entries at firsts seconds
  subst firsts seconds
  have whole : (((present entries).map fun member => (JsonText.whole member.1, member.2)).any
      (·.1 == .broken)) = false := by
    simp
  refine (if_neg (by rw [Bool.not_eq_true]; exact whole)).trans ?_
  refine mapM_eq_some_iff.mpr ?_
  rw [List.map_map, List.map_map]
  refine List.map_congr_left fun entry mem => ?_
  obtain ⟨name, value⟩ := entry
  have found := named_eq nodup mem
  unfold named at found
  simp only [Function.comp_apply, member?, found]
  cases value <;> rfl

theorem fields_singleton (name : String) (value : JsonValue) :
    (record [(name, value)]).fields [name] = some [some value] :=
  fields_record rfl (List.nodup_cons.mpr ⟨List.not_mem_nil, List.nodup_nil⟩) rfl

theorem items?_map_eq_some_iff {α : Type} {write : α → JsonValue} {read : JsonValue → Option α}
    {l : List α} :
    items? read (.array (l.map write)) = some l ↔ ∀ a ∈ l, read (write a) = some a := by
  show (l.map write).mapM read = some l ↔ _
  rw [mapM_eq_some_iff, List.map_map, List.map_inj_left]
  rfl

@[simp]
theorem text?_ofText (text : String) : (ofText text).text? = some text := rfl

/-! ### What is written is proper -/

@[simp]
theorem proper_ofText (text : String) : (ofText text).Proper := .string text

@[simp]
theorem proper_ofWord (n : UInt64) : (ofWord n).Proper := by
  refine .number ?_
  rw [Nat.toList_repr]
  simpa using IsNumeral.positive (.mk (isWhole_toDigits n.toNat) .none .none)

@[simp]
theorem proper_ofSingle (x : Float32) : (ofSingle x).Proper := by
  unfold ofSingle
  split
  · exact .number (isNumeral_single ‹_›)
  · exact .null

@[simp]
theorem proper_ofDouble (x : Float) : (ofDouble x).Proper := by
  unfold ofDouble
  split
  · exact .number (isNumeral_double ‹_›)
  · exact .null

@[simp]
theorem proper_map {α : Type} {write : α → JsonValue} (proper : ∀ a, (write a).Proper)
    (l : List α) : (array (l.map write)).Proper :=
  .array (List.forall_mem_map.mpr fun a _ => proper a)

@[simp]
theorem proper_record {members : List (String × JsonValue)}
    (proper : ∀ member ∈ members, member.2.Proper) : (record members).Proper :=
  .object (List.forall_mem_map.mpr fun _ _ => nofun) (List.forall_mem_map.mpr proper)

end JsonValue

/-! ### Reading back -/

/-- The text that is written of something is read as the same again. -/
def ReadsBack {α : Type} (write : α → JsonValue) (read : JsonValue → Option α) (a : α) : Prop :=
  (JsonValue.parse? (write a).render).bind read = some a

theorem readsBack_iff {α : Type} {write : α → JsonValue} {read : JsonValue → Option α} {a : α}
    (proper : (write a).Proper) : ReadsBack write read a ↔ read (write a) = some a := by
  rw [ReadsBack, JsonValue.parse?_render proper, Option.bind_some]

open JsonValue

theorem readsBack_single_iff (x : Float32) : ReadsBack ofSingle single? x ↔
    x.isFinite = true ∧
      (JsonNumber.ofLexeme (jsonSingleStyle.single x).toList).toSingle? = some x := by
  rw [readsBack_iff (proper_ofSingle x), ofSingle]
  split <;> simp_all [single?]

theorem readsBack_double_iff (x : Float) : ReadsBack ofDouble double? x ↔
    x.isFinite = true ∧
      (JsonNumber.ofLexeme (jsonDoubleStyle.double x).toList).toDouble? = some x := by
  rw [readsBack_iff (proper_ofDouble x), ofDouble]
  split <;> simp_all [double?]

end DocSieve
