import DocSieve.Text.Terms
import Mathlib.Data.List.Basic

/-!
# Runs and the gaps between them

A text is divided into runs of characters with a property and gaps of characters without
it, where no run is empty and no gap between two runs is (`Divides`). At a character
without the property the runs before it and those behind it are found apart from each
other (`maximalRuns_append_cons`), so runs that are joined by it are found again
(`maximalRuns_intercalate`), and the runs of any division are the maximal runs
(`Divides.maximalRuns_eq`); and every text has a division (`exists_divides`). Hence the
terms of a document are the runs of letters of its lower-case form, and no others
(`terms_divide`).

Key definitions: `Stretch`, `Divides`.
Key theorems: `maximalRuns_append_cons`, `maximalRuns_intercalate`, `Divides.maximalRuns_eq`,
`exists_divides`, `terms_divide`.
-/

namespace DocSieve

theorem forall_mem_intercalate {p : Char → Prop} {separator : List Char}
    {texts : List (List Char)} (between : ∀ c ∈ separator, p c)
    (within : ∀ text ∈ texts, ∀ c ∈ text, p c) : ∀ c ∈ separator.intercalate texts, p c := by
  induction texts with
  | nil => simp
  | cons text rest ih =>
    obtain ⟨first, others⟩ := List.forall_mem_cons.mp within
    cases rest with
    | nil => simpa using first
    | cons next rest =>
      rw [List.intercalate_cons_cons, List.forall_mem_append, List.forall_mem_append]
      exact ⟨⟨first, between⟩, ih others⟩

section MaximalRuns

variable {keep : Char → Bool}

/-! ### Runs at a character that is not kept -/

theorem putRun_append (run : List Char) (runs more : List (List Char)) :
    putRun run (runs ++ more) = putRun run runs ++ more := by
  unfold putRun
  split <;> rfl

/-- What is found in a text stands before what was found behind it. -/
theorem foldr_extendRuns (text : List Char) (more : List (List Char)) :
    text.foldr (extendRuns keep) ([], more)
      = ((text.foldr (extendRuns keep) ([], [])).1,
        (text.foldr (extendRuns keep) ([], [])).2 ++ more) := by
  induction text with
  | nil => rfl
  | cons c text ih =>
    rw [List.foldr_cons, ih, List.foldr_cons]
    unfold extendRuns
    by_cases kept : keep c = true
    · simp [kept]
    · simp [kept, putRun_append]

theorem maximalRuns_eq (text : List Char) : maximalRuns keep text
    = putRun (text.foldr (extendRuns keep) ([], [])).1 (text.foldr (extendRuns keep) ([], [])).2 :=
  rfl

/-- **A character that is not kept cuts the runs apart.** -/
theorem maximalRuns_append_cons {c : Char} (gap : keep c = false) (text more : List Char) :
    maximalRuns keep (text ++ c :: more) = maximalRuns keep text ++ maximalRuns keep more := by
  have behind : (c :: more).foldr (extendRuns keep) ([], []) = ([], maximalRuns keep more) := by
    rw [List.foldr_cons, extendRuns, gap]
    rfl
  rw [maximalRuns_eq, List.foldr_append, behind, foldr_extendRuns, putRun_append]
  rfl

theorem maximalRuns_gap {gap : List Char} (free : ∀ c ∈ gap, keep c = false) (text : List Char) :
    maximalRuns keep (gap ++ text) = maximalRuns keep text := by
  induction gap with
  | nil => rfl
  | cons c gap ih =>
    obtain ⟨first, others⟩ := List.forall_mem_cons.mp free
    have cut := maximalRuns_append_cons first [] (gap ++ text)
    rw [List.nil_append] at cut
    rw [List.cons_append, cut, ih others]
    rfl

theorem maximalRuns_run {run : List Char} (kept : ∀ c ∈ run, keep c = true) (some : run ≠ []) :
    maximalRuns keep run = [run] := by
  have all : run.foldr (extendRuns keep) ([], []) = (run, []) := by
    clear some
    induction run with
    | nil => rfl
    | cons c run ih =>
      obtain ⟨first, others⟩ := List.forall_mem_cons.mp kept
      rw [List.foldr_cons, ih others, extendRuns, first]
      rfl
  rw [maximalRuns_eq, all, putRun, if_neg (by simpa using some)]

/-- Runs with a character between them that is not kept are found again. -/
theorem maximalRuns_intercalate {keep : Char → Bool} {c : Char} (gap : keep c = false)
    {runs : List (List Char)} (kept : ∀ run ∈ runs, (∀ d ∈ run, keep d = true) ∧ run ≠ []) :
    maximalRuns keep ([c].intercalate runs) = runs := by
  induction runs with
  | nil => rfl
  | cons run rest ih =>
    obtain ⟨⟨all, some⟩, others⟩ := List.forall_mem_cons.mp kept
    have first := maximalRuns_run all some
    cases rest with
    | nil => simpa using first
    | cons next rest =>
      rw [List.intercalate_cons_cons, List.append_assoc, List.singleton_append,
        maximalRuns_append_cons gap, first, ih others]
      rfl

end MaximalRuns

/-! ### Divisions -/

/-- A run with the gap behind it. -/
structure Stretch where
  run : List Char
  gap : List Char

/-- The characters of a run and its gap. -/
def Stretch.chars (s : Stretch) : List Char := s.run ++ s.gap

/-- A text is a gap and then runs, each with the gap behind it. Only the first gap and the
last can be empty. -/
structure Divides (keep : Char → Bool) (text lead : List Char) (stretches : List Stretch) :
    Prop where
  whole : text = lead ++ stretches.flatMap Stretch.chars
  lead_free : ∀ c ∈ lead, keep c = false
  run_kept : ∀ s ∈ stretches, ∀ c ∈ s.run, keep c = true
  run_ne_nil : ∀ s ∈ stretches, s.run ≠ []
  gap_free : ∀ s ∈ stretches, ∀ c ∈ s.gap, keep c = false
  gap_ne_nil : ∀ s ∈ stretches.dropLast, s.gap ≠ []

variable {keep : Char → Bool} {text lead : List Char} {stretches : List Stretch}

/-- A gap is empty only if nothing stands behind it. -/
theorem inner_cons_iff {s : Stretch} : (∀ t ∈ (s :: stretches).dropLast, t.gap ≠ []) ↔
    (s.gap = [] → stretches = []) ∧ ∀ t ∈ stretches.dropLast, t.gap ≠ [] := by
  cases stretches with
  | nil => simp
  | cons u rest =>
    rw [List.dropLast_cons_of_ne_nil (List.cons_ne_nil u rest), List.forall_mem_cons]
    simp

namespace Divides

/-- **The runs of a division are the maximal ones.** -/
theorem maximalRuns_eq (h : Divides keep text lead stretches) :
    maximalRuns keep text = stretches.map (·.run) := by
  obtain ⟨whole, lead_free, kept, some, free, inner⟩ := h
  rw [whole, maximalRuns_gap lead_free]
  clear whole
  induction stretches with
  | nil => rfl
  | cons s rest ih =>
    obtain ⟨kept, kept_rest⟩ := List.forall_mem_cons.mp kept
    obtain ⟨some, some_rest⟩ := List.forall_mem_cons.mp some
    obtain ⟨free, free_rest⟩ := List.forall_mem_cons.mp free
    obtain ⟨last, inner⟩ := inner_cons_iff.mp inner
    have ih := ih kept_rest some_rest free_rest inner
    have run := maximalRuns_run kept some
    rw [List.flatMap_cons, Stretch.chars, List.append_assoc, List.map_cons]
    cases gap : s.gap with
    | nil =>
      obtain rfl := last gap
      simpa using run
    | cons c more =>
      rw [gap] at free
      obtain ⟨first, others⟩ := List.forall_mem_cons.mp free
      rw [List.cons_append, maximalRuns_append_cons first, maximalRuns_gap others, run, ih]
      rfl

/-! One more character in front of a text that is divided: it extends the first gap, or
the first run, or is a run of its own. -/

theorem extend_lead (h : Divides keep text lead stretches) {c : Char} (gap : keep c = false) :
    Divides keep (c :: text) (c :: lead) stretches where
  whole := by rw [h.whole, List.cons_append]
  lead_free := List.forall_mem_cons.mpr ⟨gap, h.lead_free⟩
  run_kept := h.run_kept
  run_ne_nil := h.run_ne_nil
  gap_free := h.gap_free
  gap_ne_nil := h.gap_ne_nil

theorem extend_run {s : Stretch} (h : Divides keep text [] (s :: stretches)) {c : Char}
    (kept : keep c = true) :
    Divides keep (c :: text) [] (⟨c :: s.run, s.gap⟩ :: stretches) where
  whole := by
    rw [h.whole]
    simp [Stretch.chars]
  lead_free := by simp
  run_kept := by
    obtain ⟨first, others⟩ := List.forall_mem_cons.mp h.run_kept
    exact List.forall_mem_cons.mpr ⟨List.forall_mem_cons.mpr ⟨kept, first⟩, others⟩
  run_ne_nil := by
    obtain ⟨-, others⟩ := List.forall_mem_cons.mp h.run_ne_nil
    exact List.forall_mem_cons.mpr ⟨List.cons_ne_nil _ _, others⟩
  gap_free := by
    obtain ⟨first, others⟩ := List.forall_mem_cons.mp h.gap_free
    exact List.forall_mem_cons.mpr ⟨first, others⟩
  gap_ne_nil := by
    obtain ⟨last, inner⟩ := inner_cons_iff.mp h.gap_ne_nil
    exact inner_cons_iff.mpr ⟨last, inner⟩

theorem begin_run (h : Divides keep text lead stretches) {c : Char} (kept : keep c = true)
    (apart : lead = [] → stretches = []) :
    Divides keep (c :: text) [] (⟨[c], lead⟩ :: stretches) where
  whole := by
    rw [h.whole]
    simp [Stretch.chars]
  lead_free := by simp
  run_kept := List.forall_mem_cons.mpr ⟨by simpa using kept, h.run_kept⟩
  run_ne_nil := List.forall_mem_cons.mpr ⟨List.cons_ne_nil _ _, h.run_ne_nil⟩
  gap_free := List.forall_mem_cons.mpr ⟨h.lead_free, h.gap_free⟩
  gap_ne_nil := inner_cons_iff.mpr ⟨apart, h.gap_ne_nil⟩

theorem flatten_runs (h : Divides keep text lead stretches) :
    (stretches.map (·.run)).flatten = text.filter keep := by
  obtain ⟨whole, lead_free, kept, -, free, -⟩ := h
  have none : lead.filter keep = [] :=
    List.filter_eq_nil_iff.mpr fun c mem => by simp [lead_free c mem]
  rw [whole, List.filter_append, none, List.nil_append]
  clear whole
  induction stretches with
  | nil => rfl
  | cons s rest ih =>
    obtain ⟨kept, kept_rest⟩ := List.forall_mem_cons.mp kept
    obtain ⟨free, free_rest⟩ := List.forall_mem_cons.mp free
    have all : s.run.filter keep = s.run := List.filter_eq_self.mpr kept
    have gap : s.gap.filter keep = [] :=
      List.filter_eq_nil_iff.mpr fun c mem => by simp [free c mem]
    rw [List.flatMap_cons, Stretch.chars, List.filter_append, List.filter_append, all, gap,
      ← ih kept_rest free_rest, List.append_nil]
    rfl

end Divides

/-- **Every text has a division.** -/
theorem exists_divides (keep : Char → Bool) (text : List Char) :
    ∃ lead stretches, Divides keep text lead stretches := by
  induction text with
  | nil => exact ⟨[], [], rfl, by simp, by simp, by simp, by simp, by simp⟩
  | cons c text ih =>
    obtain ⟨lead, stretches, divides⟩ := ih
    by_cases kept : keep c = true
    · rcases lead with _ | ⟨d, lead⟩
      · rcases stretches with _ | ⟨s, rest⟩
        · exact ⟨_, _, divides.begin_run kept fun _ => rfl⟩
        · exact ⟨_, _, divides.extend_run kept⟩
      · exact ⟨_, _, divides.begin_run kept (by simp)⟩
    · exact ⟨_, _, divides.extend_lead (by simpa using kept)⟩

theorem of_mem_maximalRuns {run : List Char} (mem : run ∈ maximalRuns keep text) :
    (∀ c ∈ run, keep c = true) ∧ run ≠ [] ∧ ∀ c ∈ run, c ∈ text := by
  obtain ⟨lead, stretches, divides⟩ := exists_divides keep text
  rw [divides.maximalRuns_eq] at mem
  obtain ⟨s, here, rfl⟩ := List.mem_map.mp mem
  refine ⟨divides.run_kept s here, divides.run_ne_nil s here, fun c inside => ?_⟩
  have letter : c ∈ (stretches.map (·.run)).flatten := List.mem_flatten.mpr ⟨_, mem, inside⟩
  rw [divides.flatten_runs] at letter
  exact List.mem_of_mem_filter letter

/-- **The terms of a document are the maximal runs of letters.** A list of terms is that of
a document if and only if the lower-case form of its text is divided so that the runs of
letters are these terms; there is such a division. Together the terms have the letters of
the lower-case form, in order, and the name of the document is kept. -/
theorem terms_divide (doc : Document) :
    doc.tokenize.id = doc.id ∧
    (∀ list : List String, doc.tokenize.tokens.map (·.term) = list ↔
      ∃ lead stretches, Divides isAlphabetic (lowerCase doc.text.toList) lead stretches ∧
        list = stretches.map fun s => String.ofList s.run) ∧
    doc.tokenize.tokens.flatMap (fun token => token.term.toList)
      = (lowerCase doc.text.toList).filter isAlphabetic := by
  have found {lead : List Char} {stretches : List Stretch}
      (divides : Divides isAlphabetic (lowerCase doc.text.toList) lead stretches) :
      doc.tokenize.tokens.map (·.term) = stretches.map fun s => String.ofList s.run := by
    simp [Document.tokenize, terms, divides.maximalRuns_eq, Function.comp_def]
  obtain ⟨lead, stretches, divides⟩ := exists_divides isAlphabetic (lowerCase doc.text.toList)
  refine ⟨rfl, fun list => ⟨?_, ?_⟩, ?_⟩
  · rintro rfl
    exact ⟨lead, stretches, divides, found divides⟩
  · rintro ⟨lead, stretches, divides, rfl⟩
    exact found divides
  · calc doc.tokenize.tokens.flatMap (fun token => token.term.toList)
        = (doc.tokenize.tokens.map (·.term)).flatMap String.toList := by rw [List.flatMap_map]
      _ = (stretches.map (·.run)).flatten := by
        simp [found divides, List.flatMap_def, Function.comp_def]
      _ = (lowerCase doc.text.toList).filter isAlphabetic := divides.flatten_runs

end DocSieve
