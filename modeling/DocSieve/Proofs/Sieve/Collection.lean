import DocSieve.Proofs.Index.Admission
import DocSieve.Proofs.Index.Decisions
import DocSieve.Sieve.Collection

/-!
# The books of a collection

A submission to a collection counts the document, and then counts a duplicate or stores
the document's name and vector (`Collection.submit_cases`). So the index of a collection
is submitted to as an index by itself, and the counts are the numbers of documents and of
duplicates among them (`Collection.submitAll_eq`). The names and the vectors that are
stored, in two arrays, are those of the documents that are no duplicates: both arrays hold
one document's at one place.

Key definitions: `IndexTally.counted`, `Collection.submitAll`.
Key theorems: `Collection.submit_cases`, `Collection.submitAll_eq`,
`Collection.submissions_accounted`.
-/

namespace DocSieve

deriving instance DecidableEq for EmbeddedDocument, Decision

/-- What a computation made of two gives, the second one gave for what the first gave. -/
theorem exists_of_bind_eq_ok {ε α β : Type} {x : Except ε α} {f : α → Except ε β} {b : β}
    (h : x >>= f = .ok b) : ∃ a, x = .ok a ∧ f a = .ok b := by
  cases x with
  | error e => cases h
  | ok a => exact ⟨a, rfl, h⟩

namespace IndexTally

variable (tally : IndexTally)

/-- The counts with as many documents more as there are decisions, and with the
duplicates among them. -/
def counted (decisions : List Decision) : IndexTally :=
  { tally with
    documents := tally.documents + .ofNat decisions.length
    duplicates := tally.duplicates + .ofNat (decisions.countP (·.isDuplicate)) }

@[simp]
theorem counted_nil : tally.counted [] = tally := by simp [counted]

theorem counted_append (decisions more : List Decision) :
    tally.counted (decisions ++ more) = (tally.counted decisions).counted more := by
  simp [counted, UInt64.ofNat_add, UInt64.add_assoc]

theorem counted_cons (decision : Decision) (decisions : List Decision) :
    tally.counted (decision :: decisions) = (tally.counted [decision]).counted decisions :=
  tally.counted_append [decision] decisions

theorem counted_of_duplicate {decision : Decision} (dup : decision.isDuplicate = true) :
    tally.counted [decision] = tally.submitted.repeated := by
  simp [counted, submitted, repeated, dup]

theorem counted_of_new {decision : Decision} (new : decision.isDuplicate = false) :
    tally.counted [decision] = tally.submitted := by
  simp [counted, submitted, new]

end IndexTally

namespace Collection

variable (collection : Collection)

/-- **What a submission does**: the document is counted, and it is a duplicate and counted
as such, or is none and stored. -/
theorem submit_cases (doc : EmbeddedDocument) :
    let decision := collection.index.decide doc
    (decision.isDuplicate = true ∧ collection.submit doc =
      (⟨collection.index, collection.tally.submitted.repeated⟩, decision)) ∨
    (decision.isDuplicate = false ∧ collection.submit doc =
      (⟨collection.index.store doc, collection.tally.submitted⟩, decision)) := by
  intro decision
  have commit : collection.submit doc =
      if decision.isDuplicate then
        (⟨collection.index, collection.tally.submitted.repeated⟩, decision)
      else (⟨collection.index.store doc, collection.tally.submitted⟩, decision) := rfl
  rw [commit]
  cases dup : decision.isDuplicate
  · exact .inr ⟨rfl, rfl⟩
  · exact .inl ⟨rfl, rfl⟩

/-- The index of a collection is submitted to as it is by itself, and the decision is
counted. -/
theorem submit_eq (doc : EmbeddedDocument) :
    collection.submit doc = (⟨(collection.index.submit doc).1,
      collection.tally.counted [collection.index.decide doc]⟩, collection.index.decide doc) := by
  obtain ⟨dup, eq⟩ | ⟨new, eq⟩ := collection.submit_cases doc
  · rw [eq, Index.submit_of_duplicate dup, IndexTally.counted_of_duplicate _ dup]
  · rw [eq, Index.submit_of_new new, IndexTally.counted_of_new _ new]

/-- The collection after some documents, with the decisions on them, in order. -/
def submitAll : Collection → List EmbeddedDocument → Collection × List Decision
  | collection, [] => (collection, [])
  | collection, doc :: docs =>
    let (next, decision) := collection.submit doc
    let (last, decisions) := next.submitAll docs
    (last, decision :: decisions)

@[simp]
theorem submitAll_nil : collection.submitAll [] = (collection, []) := rfl

@[simp]
theorem submitAll_cons (doc : EmbeddedDocument) (docs : List EmbeddedDocument) :
    collection.submitAll (doc :: docs)
      = (((collection.submit doc).1.submitAll docs).1,
        (collection.submit doc).2 :: ((collection.submit doc).1.submitAll docs).2) := rfl

theorem submitAll_eq (docs : List EmbeddedDocument) :
    collection.submitAll docs = (⟨(collection.index.submitAll docs).1,
      collection.tally.counted (collection.index.submitAll docs).2⟩,
      (collection.index.submitAll docs).2) := by
  induction docs generalizing collection with
  | nil => rw [submitAll_nil, Index.submitAll_nil, IndexTally.counted_nil]
  | cons doc docs ih =>
    rw [submitAll_cons, submit_eq, ih, Index.submitAll_cons, Index.submit_decision,
      collection.tally.counted_cons _ (Index.submitAll _ docs).2]

variable {collection}

theorem submitAll_of_create? {threshold : Float32} {capacity : UInt64}
    (made : create? threshold capacity = .ok collection) (docs : List EmbeddedDocument) :
    let empty := Index.empty threshold
    collection.submitAll docs = (⟨(empty.submitAll docs).1, threshold, .ofNat docs.length,
      .ofNat ((empty.submitAll docs).2.countP (·.isDuplicate))⟩, (empty.submitAll docs).2) := by
  obtain ⟨index, hindex, made⟩ := exists_of_bind_eq_ok made
  obtain ⟨-, rfl⟩ := Index.eq_of_create? hindex
  obtain rfl := Except.ok.inj made
  rw [submitAll_eq, IndexTally.counted, Index.submitAll_length]
  simp [IndexTally.zero]

/-- **Submissions are accounted for.** From a collection of nothing, after any submissions:
each document got a decision. There are as many names as vectors, and at each place they
are those of one document: in order, of the documents that are no duplicates. They and the
duplicates make up the submissions, and the counts are the numbers of submissions and of
duplicates modulo 2^64, so below that many submissions no more duplicates are counted than
documents. The names and the vectors after the first submissions are the first ones of
those after all of them. A decision with a similarity above zero names a document that was
submitted before and stored, and the similarity is that to its vector. -/
theorem submissions_accounted {threshold : Float32} {capacity : UInt64}
    (made : create? threshold capacity = .ok collection) (docs : List EmbeddedDocument) :
    let last := (collection.submitAll docs).1
    let decisions := (collection.submitAll docs).2
    let names := last.index.names
    let vectors := last.index.vectors
    let stored := keptAt (Index.admits decisions) docs
    let duplicates := decisions.countP (·.isDuplicate)
    decisions.map (·.id) = docs.map (·.id) ∧
    (names.size = vectors.size ∧ names.toList = stored.map (·.id) ∧
      vectors.toList = stored.map (·.embedding) ∧
      names.toList = (decisions.filter (!·.isDuplicate)).map (·.id)) ∧
    (names.size + duplicates = docs.length ∧ vectors.size + duplicates = docs.length ∧
      last.tally.documents = .ofNat docs.length ∧ last.tally.duplicates = .ofNat duplicates ∧
      .ofNat names.size + last.tally.duplicates = last.tally.documents) ∧
    (docs.length < UInt64.size →
      names.size + last.tally.duplicates.toNat = last.tally.documents.toNat ∧
      last.tally.documents.toNat = docs.length ∧
      last.tally.duplicates ≤ last.tally.documents) ∧
    (∀ first rest, docs = first ++ rest →
      let before := (collection.submitAll first).1.index
      before.names.toList <+: names.toList ∧ before.vectors.toList <+: vectors.toList) ∧
    ∀ (i : Nat) (doc : EmbeddedDocument) (decision : Decision), docs[i]? = some doc →
      decisions[i]? = some decision → decision.similarity > 0.0 →
      ∃ (j : Nat) (first : EmbeddedDocument) (earlier : Decision), j < i ∧
        docs[j]? = some first ∧ decisions[j]? = some earlier ∧ earlier.isDuplicate = false ∧
        first.id = decision.nearestId ∧
        doc.embedding.dot first.embedding = decision.similarity := by
  simp only [submitAll_of_create? made]
  set empty := Index.empty threshold with hempty
  set duplicates := (empty.submitAll docs).2.countP (·.isDuplicate)
  have start : empty.Aligned := Index.aligned_empty threshold
  have aligned := start.submitAll docs
  have entries : (empty.submitAll docs).1.entries.toList =
      (keptAt (Index.admits (empty.submitAll docs).2) docs).map
        fun doc => ⟨doc.id, doc.embedding⟩ := by
    rw [Index.submitAll_entries docs start, Index.entries_empty, List.nil_append]
  have size : (empty.submitAll docs).1.names.size + duplicates = docs.length := by
    rw [add_comm]
    exact empty.submitAll_size docs
  refine ⟨empty.submitAll_ids docs, ⟨aligned, ?_, ?_, ?_⟩, ⟨size, aligned ▸ size, trivial, trivial,
    ?_⟩, fun few => ?_, ?_, fun _ _ _ => Index.exists_earlier docs⟩
  · rw [aligned.names_eq, entries, List.map_map]
    rfl
  · rw [aligned.vectors_eq, entries, List.map_map]
    rfl
  · exact empty.submitAll_stored docs
  · rw [← UInt64.ofNat_add, size]
  · have fewer : duplicates < UInt64.size := by omega
    rw [UInt64.le_iff_toNat_le, UInt64.toNat_ofNat_of_lt' few, UInt64.toNat_ofNat_of_lt' fewer]
    omega
  · rintro first rest rfl
    have early := start.submitAll first
    have kept := Index.entries_kept early rest
    rw [early.names_eq, aligned.names_eq, early.vectors_eq, aligned.vectors_eq,
      Index.submitAll_append]
    exact ⟨kept.map _, kept.map _⟩

/-- Of four submissions the last two are duplicates. The third has the similarity 0.9 to a
document that was stored before it. -/
theorem submissions_accounted_four :
    let first : List EmbeddedDocument := [⟨"a", #[1.0, 0.0]⟩, ⟨"b", #[0.0, 1.0]⟩]
    let rest : List EmbeddedDocument := [⟨"c", #[0.9, 0.1]⟩, ⟨"d", #[0.2, 0.8]⟩]
    let collection : Collection := ⟨.empty 0.5, { IndexTally.zero with threshold := 0.5 }⟩
    let before := (collection.submitAll first).1
    let last := (collection.submitAll (first ++ rest)).1
    let decisions := (collection.submitAll (first ++ rest)).2
    create? 0.5 4 = .ok collection ∧ last.index.names = #["a", "b"] ∧
      last.index.vectors = #[#[1.0, 0.0], #[0.0, 1.0]] ∧
      last.index.names.size = last.index.vectors.size ∧
      last.index.names.size + last.tally.duplicates.toNat = last.tally.documents.toNat ∧
      last.tally.documents.toNat = 4 ∧ last.tally.duplicates ≤ last.tally.documents ∧
      before.index.names.toList <+: last.index.names.toList ∧
      before.index.vectors.toList <+: last.index.vectors.toList ∧
      decisions[2]? = some ⟨"c", true, "a", 0.9⟩ ∧
      ∃ (j : Nat) (stored : EmbeddedDocument) (earlier : Decision), j < 2 ∧
        (first ++ rest)[j]? = some stored ∧ decisions[j]? = some earlier ∧
        earlier.isDuplicate = false ∧ stored.id = "a" ∧
        Vector32.dot #[0.9, 0.1] stored.embedding = 0.9 := by
  intro first rest collection before last decisions
  have made : create? 0.5 4 = .ok collection := by rfl
  obtain ⟨-, ⟨sizes, -⟩, -, counted, kept, named⟩ := submissions_accounted made (first ++ rest)
  obtain ⟨sum, documents, less⟩ := counted (by decide)
  obtain ⟨names, vectors⟩ := kept first rest rfl
  have third : decisions[2]? = some ⟨"c", true, "a", 0.9⟩ := by decide +kernel
  exact ⟨made, by decide +kernel, by decide +kernel, sizes, sum, documents, less, names, vectors,
    third, named 2 ⟨"c", #[0.9, 0.1]⟩ _ rfl third (by decide +kernel)⟩

end Collection

end DocSieve
