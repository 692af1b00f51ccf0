import DocSieve.Text.Lowercase
import Mathlib.Data.List.Basic

/-!
# Lower case in its surroundings

The lower-case form of a text is written in two passes; it is that of its characters one
by one, each between all that stands before and after it (`lowerCase_eq_flatMap`). Only
whether the nearest character on either side that case does not ignore is cased comes
in from there, so the form of a text that stands between others needs no more of them
(`lowerBeside_append`).

The characters of a lower-case form are their own (`isLower_of_mem_lowerCase`): where the
table moves a run of characters to, it has no run to move (`apart_caseRuns`). None of them
is a capital sigma, so surroundings do not matter to a text of them either
(`lowerCase_of_isLower`).

Key definitions: `nearestCased`, `lowerAt`, `lowerBeside`, `IsLower`.
Key theorems: `lowerCase_eq_flatMap`, `lowerBeside_append`, `lowerByRuns_settled`,
`isLower_of_mem_lowerCase`, `lowerCase_of_isLower`.
-/

namespace DocSieve

/-! ### One character -/

/-- The first character that case does not ignore is cased. -/
def nearestCased (text : List Char) : Bool :=
  (text.find? fun c => !caseIgnorable.contains c).any cased.contains

/-- The lower-case form of a character, by what stands before and after it. A capital sigma
becomes the final one if, over any number of characters that case ignores, a cased one
stands before it and none after it. -/
def lowerAt (before : List Char) (c : Char) (after : List Char) : List Char :=
  if c = 'Σ' then [if nearestCased before.reverse && !nearestCased after then 'ς' else 'σ']
  else lowerChar c

/-- The lower-case form of a text beside others, by whether the nearest characters of these
are cased. -/
def lowerBeside (before after : Bool) : List Char → List Char
  | [] => []
  | c :: text =>
    lowerBetween before (text.foldr (fun d was => casedPast was d) after) c
      ++ lowerBeside (casedPast before c) after text

theorem nearestCased_cons (c : Char) (text : List Char) :
    nearestCased (c :: text) = casedPast (nearestCased text) c := by
  unfold nearestCased casedPast
  rw [List.find?_cons]
  cases caseIgnorable.contains c <;> simp

theorem foldr_casedPast (text : List Char) :
    text.foldr (fun c was => casedPast was c) false = nearestCased text := by
  induction text with
  | nil => rfl
  | cons c text ih => rw [List.foldr_cons, ih, nearestCased_cons]

theorem foldl_casedPast (text : List Char) :
    text.foldl casedPast false = nearestCased text.reverse := by
  rw [← foldr_casedPast, List.foldr_reverse]

/-! ### A text -/

theorem lowerBeside_append (before after : Bool) (text more : List Char) :
    lowerBeside before after (text ++ more)
      = lowerBeside before (more.foldr (fun c was => casedPast was c) after) text
        ++ lowerBeside (text.foldl casedPast before) after more := by
  induction text generalizing before with
  | nil => rfl
  | cons c text ih =>
    rw [List.cons_append, lowerBeside, ih, List.foldr_append, lowerBeside, List.append_assoc,
      List.foldl_cons]

/-- The second pass goes back over the marks of the first. -/
theorem foldl_marks (text : List Char) (before : Bool) (marked : List (Char × Bool))
    (after : Bool) (out : List Char) :
    ((text.foldl (fun (was, marked) c => (casedPast was c, (c, was) :: marked))
        (before, marked)).2).foldl (fun (after, out) (c, before) =>
          (casedPast after c, lowerBetween before after c ++ out)) (after, out)
      = marked.foldl (fun (after, out) (c, before) =>
          (casedPast after c, lowerBetween before after c ++ out))
        (text.foldr (fun c was => casedPast was c) after,
          lowerBeside before after text ++ out) := by
  induction text generalizing before marked with
  | nil => rfl
  | cons c text ih =>
    rw [List.foldl_cons, ih, List.foldl_cons, List.foldr_cons, lowerBeside, List.append_assoc]

theorem lowerCase_eq (text : List Char) : lowerCase text = lowerBeside false false text := by
  unfold lowerCase withBefore
  rw [foldl_marks]
  exact List.append_nil _

theorem lowerBetween_eq (before : List Char) (c : Char) (after : List Char) :
    lowerBetween (before.foldl casedPast false)
      (after.foldr (fun d was => casedPast was d) false) c = lowerAt before c after := by
  rw [foldl_casedPast, foldr_casedPast]
  rfl

/-- **Each character has the form that its surroundings give it.** -/
theorem lowerCase_eq_flatMap (text : List Char) : lowerCase text
    = text.zipIdx.flatMap fun p => lowerAt (text.take p.2) p.1 (text.drop (p.2 + 1)) := by
  have all (before rest : List Char) :
      lowerBeside (before.foldl casedPast false) false rest
        = (rest.zipIdx before.length).flatMap fun p =>
          lowerAt ((before ++ rest).take p.2) p.1 ((before ++ rest).drop (p.2 + 1)) := by
    induction rest generalizing before with
    | nil => rfl
    | cons c rest ih =>
      have next := ih (before ++ [c])
      rw [List.foldl_concat, List.length_append] at next
      rw [lowerBeside, lowerBetween_eq, next]
      simp
  rw [lowerCase_eq]
  exact all [] text

/-! ### Lower case is its own lower case

No run of characters leads into one of the runs, nor to the capital I with a dot above. -/

namespace CaseRun

/-- The run has this character. -/
def Holds (run : CaseRun) (n : Nat) : Prop :=
  run.first ≤ n ∧ n ≤ run.last ∧ (n - run.first) % run.stride = 0

/-- The run that the lower-case forms of a run make. -/
def image (run : CaseRun) : CaseRun :=
  ⟨(run.first + run.shift).toNat, (run.last + run.shift).toNat, run.stride, 0⟩

/-- Two runs lie beside each other, or the characters of one between those of the other. -/
def apart (run other : CaseRun) : Bool :=
  !(Nat.ble other.first run.last && Nat.ble run.first other.last) ||
    (run.stride == 2 || run.first == run.last) && other.stride == 2 &&
      (run.first + other.first) % 2 == 1

/-- The capital I with a dot above, as a run of its own. -/
def dotted : CaseRun := ⟨0x130, 0x130, 1, 0⟩

variable {run other : CaseRun} {n : Nat}

theorem not_holds_of_apart (h : run.apart other = true) (holds : run.Holds n) :
    ¬ other.Holds n := by
  rintro ⟨first', last', place'⟩
  obtain ⟨first, last, place⟩ := holds
  have reaches : Nat.ble other.first run.last = true :=
    Nat.ble_eq.mpr (Nat.le_trans first' last)
  have reached : Nat.ble run.first other.last = true :=
    Nat.ble_eq.mpr (Nat.le_trans first last')
  -- so every other character of `other` is meant, and `n` lies between two of them
  obtain ⟨⟨stride | single, two⟩, odd⟩ : ((run.stride = 2 ∨ run.first = run.last) ∧
      other.stride = 2) ∧ (run.first + other.first) % 2 = 1 := by
    simpa [apart, reaches, reached] using h
  · rw [stride] at place
    rw [two] at place'
    omega
  · rw [two] at place'
    omega

theorem Holds.image (holds : run.Holds n) (low : 0 ≤ run.first + run.shift) :
    run.image.Holds (n + run.shift).toNat := by
  obtain ⟨first, last, place⟩ := holds
  unfold CaseRun.image
  refine ⟨?_, ?_, ?_⟩
  · dsimp only
    omega
  · dsimp only
    omega
  · have same : (n + run.shift).toNat - (run.first + run.shift).toNat = n - run.first := by omega
    rw [same]
    exact place

theorem apart_caseRuns : caseRuns.all (fun run =>
    decide (0 ≤ run.first + run.shift) && (dotted :: caseRuns).all run.image.apart) = true := by
  decide +kernel

end CaseRun

theorem lowerByRuns_cases (runs : List CaseRun) (n : Nat) : lowerByRuns runs n = n ∨
    ∃ run ∈ runs, run.Holds n ∧ lowerByRuns runs n = (n + run.shift).toNat := by
  induction runs with
  | nil => exact .inl rfl
  | cons run rest ih =>
    unfold lowerByRuns
    split_ifs with before here
    · exact .inl rfl
    · exact .inr ⟨run, List.mem_cons_self, ⟨Nat.le_of_not_lt before, here⟩, rfl⟩
    · rcases ih with same | ⟨other, mem, holds, moved⟩
      · exact .inl same
      · exact .inr ⟨other, List.mem_cons_of_mem _ mem, holds, moved⟩

theorem lowerByRuns_eq_self {runs : List CaseRun} {n : Nat} (none : ∀ run ∈ runs, ¬ run.Holds n) :
    lowerByRuns runs n = n := by
  rcases lowerByRuns_cases runs n with same | ⟨run, mem, holds, -⟩
  · exact same
  · exact absurd holds (none run mem)

theorem lowerByRuns_settled {n : Nat} (undotted : n ≠ 0x130) :
    lowerByRuns caseRuns (lowerByRuns caseRuns n) = lowerByRuns caseRuns n ∧
      lowerByRuns caseRuns n ≠ 0x130 := by
  rcases lowerByRuns_cases caseRuns n with same | ⟨run, mem, holds, moved⟩
  · rw [same]
    exact ⟨same, undotted⟩
  · have checked := List.all_eq_true.mp CaseRun.apart_caseRuns run mem
    rw [Bool.and_eq_true, decide_eq_true_iff, List.all_eq_true, List.forall_mem_cons] at checked
    obtain ⟨low, dotted, runs⟩ := checked
    have led := holds.image low
    rw [moved]
    refine ⟨lowerByRuns_eq_self fun s mem => CaseRun.not_holds_of_apart (runs s mem) led,
      fun same => CaseRun.not_holds_of_apart dotted led ?_⟩
    rw [same]
    exact ⟨Nat.le_refl _, Nat.le_refl _, rfl⟩

/-- The character is its own lower-case form. -/
def IsLower (c : Char) : Prop := lowerChar c = [c]

instance (c : Char) : Decidable (IsLower c) := inferInstanceAs (Decidable (_ = _))

theorem IsLower.ne_sigma {c : Char} (h : IsLower c) : c ≠ 'Σ' := by
  rintro rfl
  exact absurd h (by decide)

theorem isLower_of_mem_lowerChar {c d : Char} (mem : d ∈ lowerChar c) : IsLower d := by
  unfold lowerChar at mem
  split at mem
  · obtain rfl | rfl : d = 'i' ∨ d = '\u0307' := by simpa using mem
    · decide
    · decide
  · rename_i undotted
    obtain rfl := List.mem_singleton.mp mem
    have number : c.toNat ≠ 0x130 := fun same => undotted (Char.toNat_inj.mp same)
    obtain ⟨settled, undotted⟩ := lowerByRuns_settled number
    by_cases valid : (lowerByRuns caseRuns c.toNat).isValidChar
    · have same : (Char.ofNat (lowerByRuns caseRuns c.toNat)).toNat
          = lowerByRuns caseRuns c.toNat := by
        rw [Char.ofNat, dif_pos valid]
        rfl
      unfold IsLower lowerChar
      rw [if_neg fun dotted => undotted (same ▸ congrArg Char.toNat dotted), same, settled]
    · -- what is no character is replaced by the first one
      have null : Char.ofNat (lowerByRuns caseRuns c.toNat) = '\x00' := dif_neg valid
      rw [null]
      decide

theorem isLower_of_mem_lowerBetween {before after : Bool} {c d : Char}
    (mem : d ∈ lowerBetween before after c) : IsLower d := by
  unfold lowerBetween at mem
  split at mem
  · obtain rfl := List.mem_singleton.mp mem
    cases endsWord before after <;> decide
  · exact isLower_of_mem_lowerChar mem

/-- **Every character of a lower-case form is its own lower-case form.** -/
theorem isLower_of_mem_lowerCase {text : List Char} {d : Char} (mem : d ∈ lowerCase text) :
    IsLower d := by
  rw [lowerCase_eq_flatMap] at mem
  obtain ⟨p, -, mem⟩ := List.mem_flatMap.mp mem
  exact isLower_of_mem_lowerBetween mem

/-- A text of such characters is its own lower-case form, whatever stands beside them. -/
theorem lowerCase_of_isLower {text : List Char} (lower : ∀ c ∈ text, IsLower c) :
    lowerCase text = text := by
  have all (before after : Bool) : lowerBeside before after text = text := by
    induction text generalizing before with
    | nil => rfl
    | cons c text ih =>
      obtain ⟨first, others⟩ := List.forall_mem_cons.mp lower
      rw [lowerBeside, lowerBetween, if_neg first.ne_sigma, first, ih others]
      rfl
  rw [lowerCase_eq, all]

end DocSieve
