import DocSieve.Embedding.Basic
import DocSieve.Proofs.Text.Lowercase
import DocSieve.Proofs.Text.Runs

/-!
# Terms of texts that are put together

A character that is neither cased nor ignored by case cuts what the characters on one side
of it see of the other side, so if it is its own lower-case form, the form of the whole is
that of both sides (`lowerCase_append_cons`); if it is no letter either, the terms of the
whole are those of both sides (`tokens_append_separator`). The space is such a character.
The terms of a document are lower case already, so putting them together again with
spaces gives a text with these terms, and with the same vector (`tokenize_joined`).

Key definition: `Document.joined`.
Key theorems: `lowerCase_append_cons`, `tokens_append_separator`, `tokenize_joined`.
-/

namespace DocSieve

/-! ### Separators -/

section Separator

variable {c : Char} (same : lowerCase [c] = [c]) (uncased : cased.contains c = false)
  (noticed : caseIgnorable.contains c = false)

include uncased noticed

theorem casedPast_separator (was : Bool) : casedPast was c = false := by
  unfold casedPast
  rw [noticed, uncased]
  rfl

include same

/-- **A separator parts the lower-case form** of what stands before it from that of what
stands after it. -/
theorem lowerCase_append_cons (text more : List Char) :
    lowerCase (text ++ c :: more) = lowerCase text ++ c :: lowerCase more := by
  have other : c ≠ 'Σ' := by
    rintro rfl
    exact absurd uncased (by decide +kernel)
  have alone : lowerChar c = [c] := by
    rw [lowerCase_eq, lowerBeside, lowerBetween, if_neg other] at same
    simpa [lowerBeside] using same
  rw [lowerCase_eq, lowerBeside_append, lowerBeside, lowerBetween, if_neg other, alone,
    List.foldr_cons, casedPast_separator uncased noticed, casedPast_separator uncased noticed,
    ← lowerCase_eq, ← lowerCase_eq]
  rfl

end Separator

theorem tokenize_eq (doc : Document) : doc.tokenize
    = ⟨doc.id, (maximalRuns isAlphabetic (lowerCase doc.text.toList)).map
      fun run => ⟨String.ofList run⟩⟩ := by
  simp [Document.tokenize, terms, Function.comp_def]

theorem tokens_eq (doc : Document) : doc.tokenize.tokens
    = (maximalRuns isAlphabetic (lowerCase doc.text.toList)).map
      fun run => ⟨String.ofList run⟩ := by
  rw [tokenize_eq]

/-- **Terms are found apart on both sides of a separator**: a character that is its own
lower-case form, no letter, not cased, and not ignored by case. Each character has the
lower-case form that its surroundings give it, those of a sigma as far as there are
characters that case ignores. -/
theorem tokens_append_separator {c : Char} (same : lowerCase [c] = [c])
    (letter : isAlphabetic c = false) (uncased : cased.contains c = false)
    (noticed : caseIgnorable.contains c = false) :
    (∀ text, lowerCase text
      = text.zipIdx.flatMap fun p => lowerAt (text.take p.2) p.1 (text.drop (p.2 + 1))) ∧
    ∀ (a b : Document) (id : String),
      (Document.tokenize ⟨id, a.text ++ String.singleton c ++ b.text⟩).tokens
        = a.tokenize.tokens ++ b.tokenize.tokens := by
  refine ⟨lowerCase_eq_flatMap, fun a b id => ?_⟩
  have text : (a.text ++ String.singleton c ++ b.text).toList
      = a.text.toList ++ c :: b.text.toList := by simp
  rw [tokens_eq, tokens_eq, tokens_eq, text, lowerCase_append_cons same uncased noticed,
    maximalRuns_append_cons letter, List.map_append]

/-- The sigmas on both sides of a space know nothing of each other. -/
theorem tokens_append_separator_sigmas :
    lowerCase [' '] = [' '] ∧ isAlphabetic ' ' = false ∧ cased.contains ' ' = false ∧
      caseIgnorable.contains ' ' = false ∧
      (Document.tokenize ⟨"w", "ΟΔΟΣ" ++ String.singleton ' ' ++ "ΣΑΣ'"⟩).tokens
        = [⟨"οδος"⟩, ⟨"σας"⟩] := by
  have same : lowerCase [' '] = [' '] := by decide +kernel
  have letter : isAlphabetic ' ' = false := by decide +kernel
  have uncased : cased.contains ' ' = false := by decide +kernel
  have noticed : caseIgnorable.contains ' ' = false := by decide +kernel
  obtain ⟨-, apart⟩ := tokens_append_separator same letter uncased noticed
  refine ⟨same, letter, uncased, noticed, ?_⟩
  calc (Document.tokenize ⟨"w", "ΟΔΟΣ" ++ String.singleton ' ' ++ "ΣΑΣ'"⟩).tokens
      = (Document.tokenize ⟨"a", "ΟΔΟΣ"⟩).tokens ++ (Document.tokenize ⟨"b", "ΣΑΣ'"⟩).tokens :=
        apart ⟨"a", "ΟΔΟΣ"⟩ ⟨"b", "ΣΑΣ'"⟩ "w"
    _ = [⟨"οδος"⟩, ⟨"σας"⟩] := by decide +kernel

/-! ### Terms joined again -/

/-- The terms of a document alone, with a space between each two. -/
def Document.joined (doc : Document) : Document :=
  ⟨doc.id, " ".intercalate (doc.tokenize.tokens.map (·.term))⟩

theorem Document.toList_joined (doc : Document) : doc.joined.text.toList
    = [' '].intercalate (maximalRuns isAlphabetic (lowerCase doc.text.toList)) := by
  unfold joined
  rw [tokens_eq, String.toList_intercalate]
  simp [Function.comp_def]

/-- Terms that are joined are lower case already. -/
theorem Document.lowerCase_joined (doc : Document) :
    lowerCase doc.joined.text.toList = doc.joined.text.toList := by
  rw [doc.toList_joined]
  have space : ∀ c ∈ [' '], IsLower c := List.forall_mem_singleton.mpr (by decide)
  apply lowerCase_of_isLower
  apply forall_mem_intercalate space
  intro run mem c inside
  obtain ⟨-, -, within⟩ := of_mem_maximalRuns mem
  exact isLower_of_mem_lowerCase (within c inside)

/-- **The terms of a document are found again in them**, joined by spaces; so whatever the
dimension is, the vector is the same. -/
theorem tokenize_joined (doc : Document) : doc.joined.tokenize = doc.tokenize ∧
    ∀ e : Embedder, e.embedDocument doc.joined.tokenize = e.embedDocument doc.tokenize := by
  have space : isAlphabetic ' ' = false := by decide +kernel
  have runs : maximalRuns isAlphabetic (lowerCase doc.joined.text.toList)
      = maximalRuns isAlphabetic (lowerCase doc.text.toList) := by
    rw [doc.lowerCase_joined, doc.toList_joined]
    apply maximalRuns_intercalate space
    intro run mem
    obtain ⟨letters, some, -⟩ := of_mem_maximalRuns mem
    exact ⟨letters, some⟩
  have same : doc.joined.tokenize = doc.tokenize := by
    rw [tokenize_eq, tokenize_eq, runs]
    rfl
  exact ⟨same, fun e => by rw [same]⟩

end DocSieve
