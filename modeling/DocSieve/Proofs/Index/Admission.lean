import DocSieve.Proofs.Index.Exactness

/-!
# Duplicates leave no trace

A duplicate changes nothing in the index, so the decisions after it are those that would
be made without it. By induction over a row of submissions any of the duplicates can be
left out: the others are decided on as before, and the index ends the same
(`submitAll_keptAt`). Without any duplicate the row is that of the documents that the
index has stored (`submitAll_entries`), so an index is made again from its own entries,
and whom a decision names was stored by an earlier submission (`exists_earlier`).

Key definitions: `keptAt`, `Index.admits`.
Key theorems: `Index.submitAll_keptAt`, `Index.submitAll_entries`,
`Index.exists_earlier`, `Index.duplicates_leave_no_trace`.
-/

namespace DocSieve

section Kept

variable {α : Type} (keep : Nat → Bool)

/-- The items at the positions that are kept. -/
def keptAt (items : List α) : List α := (items.zipIdx.filter fun p => keep p.2).map (·.1)

@[simp]
theorem keptAt_nil : keptAt keep ([] : List α) = [] := rfl

theorem keptAt_cons (x : α) (items : List α) :
    keptAt keep (x :: items)
      = (if keep 0 then [x] else []) ++ keptAt (fun i => keep (i + 1)) items := by
  unfold keptAt
  rw [List.zipIdx_cons, zero_add, List.zipIdx_succ, List.filter_cons, List.filter_map]
  split <;> simp [Function.comp_def]

theorem mem_keptAt {x : α} {items : List α} :
    x ∈ keptAt keep items ↔ ∃ i, keep i = true ∧ items[i]? = some x := by
  simp [keptAt, List.mem_zipIdx_iff_getElem?, and_comm]

end Kept

namespace Index

variable (index : Index) (docs : List EmbeddedDocument)

/-! ### Leaving out duplicates -/

/-- **Duplicates can be left out of a row.** Whichever of them are, the others are decided
on as before, and the index ends the same. -/
theorem submitAll_keptAt (keep : Nat → Bool)
    (duplicates : ∀ i, (bound : i < (index.submitAll docs).2.length) → keep i = false →
      (index.submitAll docs).2[i].isDuplicate = true) :
    index.submitAll (keptAt keep docs)
      = ((index.submitAll docs).1, keptAt keep (index.submitAll docs).2) := by
  induction docs generalizing index keep with
  | nil => rfl
  | cons doc docs ih =>
    have rest := ih (index.submit doc).1 (fun i => keep (i + 1)) fun i bound =>
      duplicates (i + 1) (Nat.succ_lt_succ bound)
    rw [submitAll_cons, keptAt_cons, keptAt_cons]
    cases first : keep 0 with
    | true => simp [rest]
    | false =>
      have dup := duplicates 0 (Nat.succ_pos _) first
      simp only [submitAll_cons, List.getElem_cons_zero, submit_decision] at dup
      rw [submit_of_duplicate dup] at rest ⊢
      simpa using rest

/-! ### What is stored -/

/-- The decision at a position is that the document is no duplicate. -/
def admits (decisions : List Decision) (i : Nat) : Bool := decisions[i]?.any (!·.isDuplicate)

theorem admits_iff {decisions : List Decision} {i : Nat} : admits decisions i = true ↔
    ∃ decision, decisions[i]? = some decision ∧ decision.isDuplicate = false := by
  simp [admits, Option.any_eq_true]

variable {index} in
theorem submitAll_entries (aligned : index.Aligned) :
    (index.submitAll docs).1.entries.toList = index.entries.toList ++
      (keptAt (admits (index.submitAll docs).2) docs).map fun doc => ⟨doc.id, doc.embedding⟩ := by
  induction docs generalizing index with
  | nil => simp
  | cons doc docs ih =>
    have shift : (fun i => admits (index.submitAll (doc :: docs)).2 (i + 1))
        = admits ((index.submit doc).1.submitAll docs).2 := rfl
    rw [keptAt_cons, shift, submitAll_cons, ih (aligned.submit doc), submit_entries aligned,
      List.append_assoc]
    cases dup : (index.decide doc).isDuplicate <;> simp [admits, dup]

/-- In a row of submissions to an empty index, a similarity above zero is that to a document
stored before, which is named. -/
theorem exists_earlier {threshold : Float32} {i : Nat} {doc : EmbeddedDocument}
    {decision : Decision} (submitted : docs[i]? = some doc)
    (decided : ((empty threshold).submitAll docs).2[i]? = some decision)
    (above : decision.similarity > 0.0) :
    ∃ j first earlier, j < i ∧ docs[j]? = some first ∧
      ((empty threshold).submitAll docs).2[j]? = some earlier ∧
      earlier.isDuplicate = false ∧ first.id = decision.nearestId ∧
      doc.embedding.dot first.embedding = decision.similarity := by
  rw [submitAll_getElem?, submitted] at decided
  obtain rfl := Option.some.inj decided
  obtain ⟨k, bound, nearest, -⟩ := nearest_first _ doc.embedding above
  -- The nearest entry is that of one of the documents before this one.
  have stored := Array.mem_toList_iff.mpr (Array.getElem_mem bound)
  rw [submitAll_entries _ (aligned_empty threshold), entries_empty, List.nil_append] at stored
  obtain ⟨first, kept, same⟩ := List.mem_map.mp stored
  rw [← same] at nearest
  obtain ⟨j, admitted, here⟩ := (mem_keptAt _).mp kept
  rw [admits_iff, submitAll_take] at admitted
  obtain ⟨earlier, there, none⟩ := admitted
  rw [List.getElem?_take] at here there
  split at here
  · rename_i less
    rw [if_pos less] at there
    exact ⟨j, first, earlier, less, here, there, none, congrArg Hit.id nearest.symm,
      congrArg Hit.score nearest.symm⟩
  · cases here

/-! ### Without duplicates -/

theorem duplicate_of_not_admits {decisions : List Decision} (i : Nat)
    (bound : i < decisions.length) (out : admits decisions i = false) :
    decisions[i].isDuplicate = true := by
  simpa [admits, bound] using out

theorem not_duplicate_of_admits {decisions : List Decision} :
    ∀ decision ∈ keptAt (admits decisions) decisions, decision.isDuplicate = false := by
  intro decision mem
  obtain ⟨i, admitted, here⟩ := (mem_keptAt _).mp mem
  obtain ⟨_, there, none⟩ := admits_iff.mp admitted
  rwa [Option.some.inj (here.symm.trans there)]

/-- An entry as a document. -/
def Entry.document (entry : Entry) : EmbeddedDocument := ⟨entry.id, entry.vector⟩

/-- **Duplicates leave no trace.** From an empty index with a threshold that it accepts: of
a row of submissions any of the duplicates can be left out. The others are decided on as
before, and the index ends the same. If its entries are submitted in their order to the
empty index, none is a duplicate, and the index is the same again. -/
theorem duplicates_leave_no_trace {threshold : Float32} {capacity : UInt64} {index : Index}
    (made : create? threshold capacity = .ok index) (docs : List EmbeddedDocument) :
    let last := (index.submitAll docs).1
    let decisions := (index.submitAll docs).2
    (∀ keep : Nat → Bool,
      (∀ i, (bound : i < decisions.length) → keep i = false → decisions[i].isDuplicate = true) →
      (index.submitAll (keptAt keep docs)).1 = last ∧
        (index.submitAll (keptAt keep docs)).2 = keptAt keep decisions) ∧
    (index.submitAll (last.entries.toList.map Entry.document)).1 = last ∧
      ∀ decision ∈ (index.submitAll (last.entries.toList.map Entry.document)).2,
        decision.isDuplicate = false := by
  intro last decisions
  obtain ⟨-, rfl⟩ := eq_of_create? made
  have own : last.entries.toList.map Entry.document = keptAt (admits decisions) docs := by
    rw [submitAll_entries docs (aligned_empty threshold)]
    simp [Entry.document, Function.comp_def, decisions]
  constructor
  · intro keep duplicates
    rw [submitAll_keptAt _ docs keep duplicates]
    exact ⟨rfl, rfl⟩
  · rw [own, submitAll_keptAt _ docs _ duplicate_of_not_admits]
    exact ⟨rfl, not_duplicate_of_admits⟩

/-- Of two documents and their repetitions one repetition is left out. -/
theorem duplicates_leave_no_trace_four :
    let docs : List EmbeddedDocument :=
      [⟨"a", #[1.0, 0.0]⟩, ⟨"b", #[0.0, 1.0]⟩, ⟨"c", #[0.9, 0.1]⟩, ⟨"d", #[0.2, 0.8]⟩]
    let keep (i : Nat) : Bool := i != 2
    let empty : Index := .empty 0.5
    create? 0.5 4 = .ok empty ∧
      (empty.submitAll docs).2.map (·.isDuplicate) = [false, false, true, true] ∧
      (keptAt keep docs).map (·.id) = ["a", "b", "d"] ∧
      (empty.submitAll (keptAt keep docs)).1 = (empty.submitAll docs).1 ∧
      (empty.submitAll (keptAt keep docs)).2 = keptAt keep (empty.submitAll docs).2 := by
  intro docs keep empty
  have made : create? 0.5 4 = .ok empty := by rfl
  have decided : (empty.submitAll docs).2.map (·.isDuplicate) = [false, false, true, true] := by
    decide +kernel
  obtain ⟨left_out, -⟩ := duplicates_leave_no_trace made docs
  refine ⟨made, decided, by decide, left_out keep fun i bound out => ?_⟩
  obtain rfl : i = 2 := by simpa [keep] using out
  have flag : ((empty.submitAll docs).2.map (·.isDuplicate))[2]? = some true := by rw [decided]; rfl
  rw [List.getElem?_map, List.getElem?_eq_getElem bound] at flag
  simpa using flag

end Index

end DocSieve
