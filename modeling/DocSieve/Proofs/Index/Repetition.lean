import DocSieve.Proofs.Embedding.Length
import DocSieve.Proofs.Index.Submission
import DocSieve.Text.Terms

/-!
# The same text again

A text that is submitted twice in a row is stored by the first submission, or was a
duplicate then and is one again. If it was stored, nothing else has changed, so the
second submission is a duplicate if and only if the computed similarity of its
embedding to itself reaches the threshold. That similarity is one only up to
rounding: every threshold up to `1 - (n + 3) / 2^23` is reached, where `n` components
of the embedding are not zero (`repeat_caught`), but a threshold of one can be
missed (`repeat_missed`).

Key theorems: `Index.decide_again`, `Index.reaches_itself`, `Index.repeat_caught`.
-/

namespace DocSieve

open Vector32

theorem embedDocument_tokenize_iff {embedder : Embedder} {id text : String}
    {doc : EmbeddedDocument} :
    embedder.embedDocument (Document.tokenize ⟨id, text⟩) = .ok doc ↔
      embedder.embed (terms text) = .ok doc.embedding ∧ doc.id = id := by
  have same : ((terms text).map Token.mk).map (·.term) = terms text := by
    rw [List.map_map]
    exact List.map_id _
  unfold Embedder.embedDocument Document.tokenize
  rw [same]
  cases embedder.embed (terms text) with
  | error fault =>
    constructor
    · intro h
      cases h
    · rintro ⟨h, -⟩
      cases h
  | ok v =>
    constructor
    · intro h
      rw [← Except.ok.inj h]
      exact ⟨rfl, rfl⟩
    · rintro ⟨vector, rfl⟩
      obtain rfl := Except.ok.inj vector
      rfl

namespace Index

/-- A document with the vector of the one before, under any name, is a duplicate if and
only if that was one or the similarity of the vector to itself reaches the threshold. -/
theorem decide_again {index : Index} (aligned : index.Aligned)
    (positive : (0.0 : Float32) < index.threshold) (doc repeated : EmbeddedDocument)
    (same : repeated.embedding = doc.embedding) :
    ((index.submit doc).1.decide repeated).isDuplicate = true ↔
      (index.decide doc).isDuplicate = true ∨
        doc.embedding.dot doc.embedding ≥ index.threshold := by
  have positive' : (0.0 : Float32) < (index.submit doc).1.threshold := by
    rwa [index.submit_threshold doc]
  rw [isDuplicate_iff _ positive', index.isDuplicate_iff positive doc,
    index.submit_threshold doc, same]
  obtain ⟨dup, eq⟩ | ⟨-, eq⟩ := index.submit_cases doc
  · -- Nothing is stored: the entry that was reached is reached again.
    rw [eq]
    refine ⟨.inl, fun reached => ?_⟩
    exact (index.isDuplicate_iff positive doc).mp dup
  · rw [eq, aligned.entries_store]
    simp only [Array.mem_push]
    constructor
    · rintro ⟨entry, old | rfl, reached⟩
      · exact .inl ⟨entry, old, reached⟩
      · exact .inr reached
    · rintro (⟨entry, old, reached⟩ | reached)
      · exact ⟨entry, .inl old, reached⟩
      · exact ⟨_, .inr rfl, reached⟩

theorem reaches_itself {embedder : Embedder} {terms : List String} {v : Vector32}
    (embedded : embedder.embed terms = .ok v) (nonzero : 0 < support v) {threshold : Float32}
    (positive : (0.0 : Float32) < threshold)
    (below : Single.value threshold ≤ ((1 - ((support v + 3 : ℕ) : ℝ) / 2 ^ 23 : ℝ) : EReal)) :
    v.dot v ≥ threshold := by
  have counts := isCount_of_mem_counts embedder terms
  obtain rfl := eq_of_embed embedded
  rw [support_normalize counts] at nonzero below
  obtain ⟨-, number, above⟩ := (Single.lt_iff _ _).mp positive
  -- A positive threshold leaves room for the roundings of fewer than `2^23` components.
  have few : support (embedder.counts terms) + 3 ≤ 2 ^ 23 := by
    have hlt := above.trans_le below
    rw [Single.value_eq_real rfl, Single.real_zero, EReal.coe_lt_coe_iff, sub_pos,
      div_lt_one (by norm_num)] at hlt
    exact_mod_cast hlt.le
  obtain ⟨finite, near⟩ := self_similarity counts nonzero few
  refine (Single.le_iff _ _).mpr ⟨number, Single.isNaN_of_isFinite finite, below.trans ?_⟩
  rw [Single.value_eq_real finite]
  exact EReal.coe_le_coe_iff.mpr near

/-- **The same text again is caught, up to the rounding of its similarity to itself.**
From an empty index with a threshold that it accepts, after any submissions: a text is
embedded and submitted, and then again under any name. It is embedded in the same
vector, and its submission is a duplicate that stores nothing if and only if the first
was a duplicate or the similarity of the vector to itself reaches the threshold. This is
so for every threshold up to `1 - (n + 3) / 2^23`, where `n` components of the vector
are not zero, at least one. -/
theorem repeat_caught {threshold : Float32} {capacity : UInt64} {index : Index}
    (made : create? threshold capacity = .ok index) (earlier : List EmbeddedDocument)
    {embedder : Embedder} {text id : String} {doc : EmbeddedDocument}
    (embedded : embedder.embedDocument (Document.tokenize ⟨id, text⟩) = .ok doc)
    (again : String) :
    let v := doc.embedding
    let before := (index.submitAll earlier).1
    let after := (before.submit doc).1
    let repeated : EmbeddedDocument := ⟨again, v⟩
    let caught := (after.submit repeated).2.isDuplicate = true ∧ (after.submit repeated).1 = after
    embedder.embedDocument (Document.tokenize ⟨again, text⟩) = .ok repeated ∧
      (caught ↔ (before.submit doc).2.isDuplicate = true ∨ v.dot v ≥ threshold) ∧
      (0 < support v →
        Single.value threshold ≤ ((1 - ((support v + 3 : ℕ) : ℝ) / 2 ^ 23 : ℝ) : EReal) →
        caught) := by
  intro v before after repeated caught
  obtain ⟨accepted, rfl⟩ := eq_of_create? made
  have positive := positive_of_accepts accepted
  have threshold_eq : before.threshold = threshold := submitAll_threshold _ earlier
  have aligned : before.Aligned := (aligned_empty threshold).submitAll earlier
  have vector := (embedDocument_tokenize_iff.mp embedded).1
  have caught_iff : caught ↔ (before.submit doc).2.isDuplicate = true ∨ v.dot v ≥ threshold := by
    have decided := decide_again aligned (threshold_eq ▸ positive) doc repeated rfl
    rw [threshold_eq] at decided
    change (_ ∧ _) ↔ _
    rw [submit_decision, submit_decision, ← decided, and_iff_left_iff_imp]
    exact submit_of_duplicate
  refine ⟨embedDocument_tokenize_iff.mpr ⟨vector, rfl⟩, caught_iff, fun nonzero below => ?_⟩
  exact caught_iff.mpr (.inr (reaches_itself vector nonzero positive below))

theorem pair_ne_zero : (2 : UInt64) ≠ 0 := by decide

/-- The embedder with two components. -/
def pairEmbedder : Embedder := ⟨2, pair_ne_zero⟩

/-- The vector of two terms, one with an odd hash: the root of a half, and its negative. -/
def pairVector : Vector32 := #[.ofBits 0x3f3504f3, .ofBits 0xbf3504f3]

theorem embed_pair : pairEmbedder.embed (terms "a b") = .ok pairVector := by
  have vector : (pairEmbedder.embed (terms "a b")).toOption = some pairVector := by
    decide +kernel
  cases h : pairEmbedder.embed (terms "a b") with
  | error fault => rw [h] at vector; cases vector
  | ok v =>
    rw [h] at vector
    rw [Option.some.inj vector]

theorem embedDocument_pair (id : String) :
    pairEmbedder.embedDocument (Document.tokenize ⟨id, "a b"⟩) = .ok ⟨id, pairVector⟩ :=
  embedDocument_tokenize_iff.mpr ⟨embed_pair, rfl⟩

theorem support_pair : support pairVector = 2 := by decide +kernel

/-- The pair is caught at the threshold 0.8, which two components allow. -/
theorem repeat_caught_pair :
    let after := ((empty 0.8).submit ⟨"x", pairVector⟩).1
    create? 0.8 4 = .ok (.empty 0.8) ∧
      pairEmbedder.embedDocument (Document.tokenize ⟨"x", "a b"⟩) = .ok ⟨"x", pairVector⟩ ∧
      pairEmbedder.embedDocument (Document.tokenize ⟨"y", "a b"⟩) = .ok ⟨"y", pairVector⟩ ∧
      (after.submit ⟨"y", pairVector⟩).2.isDuplicate = true ∧
      (after.submit ⟨"y", pairVector⟩).1 = after := by
  have made : create? 0.8 4 = .ok (.empty 0.8) := by rfl
  have parts : (0.8 : Float32).toModel.unpack = .finite .positive 13421773 (-24) (by decide) := by
    rfl
  have below : Single.value 0.8
      ≤ ((1 - ((support pairVector + 3 : ℕ) : ℝ) / 2 ^ 23 : ℝ) : EReal) := by
    rw [Single.value_eq_real rfl, EReal.coe_le_coe_iff, Single.real, parts, support_pair]
    norm_num [partsReal, signed, scaled]
  obtain ⟨embedded, -, caught⟩ := repeat_caught made [] (embedDocument_pair "x") "y"
  exact ⟨made, embedDocument_pair "x", embedded, caught (by rw [support_pair]; norm_num) below⟩

/-- **A threshold of one can be missed.** The similarity of the pair to itself is the
number before one, so at the threshold one the pair is stored twice. -/
theorem repeat_missed :
    let after := ((empty 1.0).submit ⟨"x", pairVector⟩).1
    create? 1.0 4 = .ok (.empty 1.0) ∧
      pairEmbedder.embedDocument (Document.tokenize ⟨"x", "a b"⟩) = .ok ⟨"x", pairVector⟩ ∧
      pairEmbedder.embedDocument (Document.tokenize ⟨"y", "a b"⟩) = .ok ⟨"y", pairVector⟩ ∧
      0 < support pairVector ∧ pairVector.dot pairVector = .ofBits 0x3f7fffff ∧
      (after.submit ⟨"y", pairVector⟩).2.isDuplicate = false ∧
      (after.submit ⟨"y", pairVector⟩).1.ids = ["x", "y"] :=
  ⟨by rfl, embedDocument_pair "x", embedDocument_pair "y", by decide +kernel, by decide +kernel,
    by decide +kernel, by decide +kernel⟩

end Index

end DocSieve
