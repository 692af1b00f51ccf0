import DocSieve.Ranking.Basic
import Mathlib.Data.List.Basic
import Mathlib.Tactic.SplitIfs

/-!
# A ranking holds nothing but the items

Whatever the comparison is, a list is ranked by moving its items about: what holds
of all items holds of all that are ranked. This is said of each way to rank a list,
from two halves that are merged up to the runs of a long one, where none of them has
to find a ranking.

Key definition: `Ranking.Cutting.Keeps`.
Key theorem: `Ranking.mem_of_rank?`.
-/

namespace DocSieve

namespace Ranking

variable {α : Type} {before : α → α → Bool} {P : α → Prop}

/-! ### Short lists -/

theorem forall_insertLast {item : α} {ranked : List α} (holds : P item)
    (all : ∀ x ∈ ranked, P x) : ∀ x ∈ insertLast before item ranked, P x := by
  induction ranked with
  | nil => simpa [insertLast] using holds
  | cons last rest ih =>
    rw [List.forall_mem_cons] at all
    unfold insertLast
    split
    · exact List.forall_mem_cons.mpr ⟨all.1, ih all.2⟩
    · exact List.forall_mem_cons.mpr ⟨holds, List.forall_mem_cons.mpr all⟩

theorem forall_inserted {ranked items : List α} (ranked_all : ∀ x ∈ ranked, P x)
    (all : ∀ x ∈ items, P x) : ∀ x ∈ inserted before ranked items, P x := by
  have folded : ∀ (items kept : List α), (∀ x ∈ items, P x) → (∀ x ∈ kept, P x) →
      ∀ x ∈ items.foldl (fun kept item => insertLast before item kept) kept, P x := by
    intro items
    induction items with
    | nil => exact fun _ _ kept => kept
    | cons item items ih =>
      intro kept all kept_all
      rw [List.forall_mem_cons] at all
      exact ih _ all.2 (forall_insertLast all.1 kept_all)
  intro x mem
  exact folded items ranked.reverse all (fun y hy => ranked_all y (List.mem_reverse.mp hy)) x
    (List.mem_reverse.mp mem)

theorem forall_rankFour {w x y z : α} (hw : P w) (hx : P x) (hy : P y) (hz : P z) :
    ∀ item ∈ rankFour before w x y z, P item := by
  unfold rankFour
  dsimp only
  split_ifs <;> simp [*]

theorem forall_mergeFront {n : Nat} {first second : List α} (h₁ : ∀ x ∈ first, P x)
    (h₂ : ∀ x ∈ second, P x) : ∀ x ∈ (mergeFront before n first second).1, P x := by
  fun_induction mergeFront before n first second with
  | case1 => simp
  | case2 n x xs y ys goes merged taken eq ih =>
    rw [List.forall_mem_cons] at h₂
    exact List.forall_mem_cons.mpr ⟨h₂.1, by simpa [eq] using ih h₁ h₂.2⟩
  | case3 n x xs y ys stays merged taken eq ih =>
    rw [List.forall_mem_cons] at h₁
    exact List.forall_mem_cons.mpr ⟨h₁.1, by simpa [eq] using ih h₁.2 h₂⟩
  | case4 n ys => exact fun x mem => h₂ x (List.mem_of_mem_take mem)
  | case5 n xs => exact fun x mem => h₁ x (List.mem_of_mem_take mem)

theorem forall_mergeBack {n : Nat} {first second : List α} (h₁ : ∀ x ∈ first, P x)
    (h₂ : ∀ x ∈ second, P x) : ∀ x ∈ (mergeBack before n first second).1, P x :=
  forall_mergeFront (fun x mem => h₂ x (List.mem_reverse.mp mem))
    fun x mem => h₁ x (List.mem_reverse.mp mem)

theorem forall_merge {first second : List α} (h₁ : ∀ x ∈ first, P x)
    (h₂ : ∀ x ∈ second, P x) : ∀ x ∈ merge before first second, P x := by
  unfold merge
  dsimp only
  split
  · exact forall_mergeFront h₁ h₂
  · exact fun x mem => forall_mergeBack h₁ h₂ x (List.mem_reverse.mp mem)

theorem forall_mergeHalves? {first second merged : List α} (h₁ : ∀ x ∈ first, P x)
    (h₂ : ∀ x ∈ second, P x) (found : mergeHalves? before first second = some merged) :
    ∀ x ∈ merged, P x := by
  simp only [mergeHalves?, Option.map_eq_some_iff] at found
  obtain ⟨between, middle, rfl⟩ := found
  have between_all : ∀ x ∈ between, P x := by
    split_ifs at middle <;> cases middle
    · simp
    · exact fun x mem => h₂ x (List.mem_of_mem_drop (List.mem_of_mem_take mem))
    · exact fun x mem => h₁ x (List.mem_of_mem_drop (List.mem_of_mem_take mem))
  intro x mem
  rcases List.mem_append.mp mem with mem | mem
  · rcases List.mem_append.mp mem with mem | mem
    · exact forall_mergeFront h₁ h₂ x mem
    · exact between_all x mem
  · exact forall_mergeBack h₁ h₂ x (List.mem_reverse.mp mem)

theorem forall_rankHalf {items : List α} (all : ∀ x ∈ items, P x) :
    ∀ x ∈ rankHalf before items, P x := by
  unfold rankHalf
  split
  · simp only [List.forall_mem_cons] at all
    obtain ⟨hw, hx, hy, hz, rest⟩ := all
    exact forall_inserted (forall_rankFour hw hx hy hz) rest
  · exact forall_inserted (by simp) all

theorem forall_halves? {items ranked : List α} (all : ∀ x ∈ items, P x)
    (found : halves? before items = some ranked) : ∀ x ∈ ranked, P x := by
  have half : ∀ part : List α, (∀ x ∈ part, P x) →
      ∀ x ∈ (if items.length < 8 then inserted before [] else rankHalf before) part, P x := by
    intro part part_all
    split
    · exact forall_inserted (by simp) part_all
    · exact forall_rankHalf part_all
  exact forall_mergeHalves? (half _ fun x mem => all x (List.mem_of_mem_take mem))
    (half _ fun x mem => all x (List.mem_of_mem_drop mem)) found

/-! ### Runs -/

theorem forall_orderedFront {items : List α} (all : ∀ x ∈ items, P x) :
    ∀ x ∈ (orderedFront before items).1, P x := by
  unfold orderedFront
  dsimp only
  split
  · exact fun x mem => all x (List.mem_of_mem_take (List.mem_reverse.mp mem))
  · exact fun x mem => all x (List.mem_of_mem_take mem)

namespace Cutting

variable {c : Cutting α}

/-- What holds of all items holds of those of a run that is cut off, and of those of
a run that is put in order. -/
structure Keeps (c : Cutting α) (P : α → Prop) : Prop where
  cut : ∀ items run, (∀ x ∈ items, P x) → c.cut items = some run → ∀ x ∈ run.items, P x
  rank : ∀ items ranked, (∀ x ∈ items, P x) → c.rank items = some ranked → ∀ x ∈ ranked, P x

namespace Keeps

variable (keeps : c.Keeps P)

include keeps

theorem next? {items rest : List α} {run : Run α} (all : ∀ x ∈ items, P x)
    (found : c.next? before items = some (run, rest)) :
    (∀ x ∈ run.items, P x) ∧ ∀ x ∈ rest, P x := by
  simp only [Cutting.next?] at found
  split at found
  · cases found
    exact ⟨forall_orderedFront all, fun x mem => all x (List.mem_of_mem_drop mem)⟩
  · simp only [Option.bind_eq_bind, Option.bind_eq_some_iff, Option.pure_def, Option.some.injEq,
      Prod.mk.injEq] at found
    obtain ⟨run, cut, rfl, rfl⟩ := found
    exact ⟨keeps.cut _ _ all cut, fun x mem => all x (List.mem_of_mem_drop mem)⟩

theorem ranked? {run : Run α} {ranked : List α} (all : ∀ x ∈ run.items, P x)
    (found : c.ranked? run = some ranked) : ∀ x ∈ ranked, P x := by
  unfold Cutting.ranked? at found
  split at found
  · cases found
    exact all
  · exact keeps.rank _ _ all found

theorem join? {first second run : Run α} (h₁ : ∀ x ∈ first.items, P x)
    (h₂ : ∀ x ∈ second.items, P x) (found : c.join? before first second = some run) :
    ∀ x ∈ run.items, P x := by
  unfold Cutting.join? at found
  split at found
  · simp only [Option.bind_eq_bind, Option.bind_eq_some_iff, Option.pure_def,
      Option.some.injEq] at found
    obtain ⟨left, hleft, right, hright, rfl⟩ := found
    exact forall_merge (keeps.ranked? h₁ hleft) (keeps.ranked? h₂ hright)
  · cases found
    exact List.forall_mem_append.mpr ⟨h₁, h₂⟩

theorem settle? {height : Nat} {waiting waiting' : List (Run α × Nat)} {last last' : Run α}
    (hw : ∀ entry ∈ waiting, ∀ x ∈ entry.1.items, P x) (hl : ∀ x ∈ last.items, P x)
    (found : c.settle? before height waiting last = some (waiting', last')) :
    (∀ entry ∈ waiting', ∀ x ∈ entry.1.items, P x) ∧ ∀ x ∈ last'.items, P x := by
  induction waiting generalizing last with
  | nil =>
    cases found
    exact ⟨hw, hl⟩
  | cons entry rest ih =>
    obtain ⟨run, h⟩ := entry
    unfold Cutting.settle? at found
    split at found
    · simp only [Option.bind_eq_bind, Option.bind_eq_some_iff] at found
      obtain ⟨joined, hjoined, found⟩ := found
      rw [List.forall_mem_cons] at hw
      exact ih hw.2 (keeps.join? hw.1 hl hjoined) found
    · cases found
      exact ⟨hw, hl⟩

theorem gather? {total rounds place : Nat} {waiting : List (Run α × Nat)} {last run : Run α}
    {items : List α} (hw : ∀ entry ∈ waiting, ∀ x ∈ entry.1.items, P x)
    (hl : ∀ x ∈ last.items, P x) (all : ∀ x ∈ items, P x)
    (found : c.gather? before total rounds place waiting last items = some run) :
    ∀ x ∈ run.items, P x := by
  have settled : ∀ {waiting : List (Run α × Nat)} {last run : Run α},
      (∀ entry ∈ waiting, ∀ x ∈ entry.1.items, P x) → (∀ x ∈ last.items, P x) →
      (do return (← c.settle? before topHeight waiting last).2) = some run →
      ∀ x ∈ run.items, P x := by
    intro waiting last run hw hl found
    simp only [Option.bind_eq_bind, Option.bind_eq_some_iff, Option.pure_def,
      Option.some.injEq] at found
    obtain ⟨⟨_, _⟩, found, rfl⟩ := found
    exact (keeps.settle? hw hl found).2
  induction rounds generalizing place waiting last items with
  | zero => exact settled hw hl (by simpa [Cutting.gather?] using found)
  | succ rounds ih =>
    cases items with
    | nil => exact settled hw hl (by simpa [Cutting.gather?] using found)
    | cons item items =>
      simp only [Cutting.gather?, Option.bind_eq_bind, Option.bind_eq_some_iff,
        Prod.exists] at found
      obtain ⟨next, rest, hnext, waiting', last', hsettle, found⟩ := found
      obtain ⟨next_all, rest_all⟩ := keeps.next? all hnext
      obtain ⟨waiting_all, last_all⟩ := keeps.settle? hw hl hsettle
      exact ih (List.forall_mem_cons.mpr ⟨last_all, waiting_all⟩) next_all rest_all found

theorem rank? {items ranked : List α} (all : ∀ x ∈ items, P x)
    (found : c.rank? before items = some ranked) : ∀ x ∈ ranked, P x := by
  simp only [Cutting.rank?, Option.bind_eq_bind, Option.bind_eq_some_iff, Prod.exists] at found
  obtain ⟨run, rest, hnext, whole, hgather, found⟩ := found
  obtain ⟨run_all, rest_all⟩ := keeps.next? all hnext
  exact keeps.ranked? (keeps.gather? (by simp) run_all rest_all hgather) found

end Keeps

end Cutting

/-! ### Any list -/

theorem forall_shortRuns? {items ranked : List α} (all : ∀ x ∈ items, P x)
    (found : shortRuns? before items = some ranked) : ∀ x ∈ ranked, P x := by
  refine Cutting.Keeps.rank? ⟨fun items run all cut => ?_, fun _ _ => forall_halves?⟩ all found
  simp only [shortRun?, Option.bind_eq_bind, Option.bind_eq_some_iff, Option.pure_def,
    Option.some.injEq] at cut
  obtain ⟨short, cut, rfl⟩ := cut
  exact forall_halves? (fun x mem => all x (List.mem_of_mem_take mem)) cut

theorem forall_split? {rounds : Nat} {bound : Option α} {items ranked : List α}
    (all : ∀ x ∈ items, P x) (found : split? before rounds bound items = some ranked) :
    ∀ x ∈ ranked, P x := by
  induction rounds generalizing bound items ranked with
  | zero =>
    cases items with
    | nil =>
      cases found
      simp
    | cons first rest =>
      unfold split? at found
      split at found
      · exact forall_halves? all found
      · exact forall_shortRuns? all found
  | succ rounds ih =>
    cases items with
    | nil =>
      cases found
      simp
    | cons first rest =>
      simp only [split?, List.partition_eq_filter_filter] at found
      have part : ∀ q : α → Bool, ∀ x ∈ (first :: rest).filter q, P x :=
        fun q x mem => all x (List.mem_of_mem_filter mem)
      split at found
      · exact forall_halves? all found
      split at found
      all_goals
        simp only [Option.bind_eq_bind, Option.bind_eq_some_iff, Option.pure_def,
          Option.some.injEq] at found
      · obtain ⟨upper, hupper, rfl⟩ := found
        exact List.forall_mem_append.mpr ⟨part _, ih (part _) hupper⟩
      · obtain ⟨upper, hupper, lower, hlower, rfl⟩ := found
        exact List.forall_mem_append.mpr ⟨ih (part _) hlower, ih (part _) hupper⟩

/-- **What is ranked are items of the list.** -/
theorem mem_of_rank? {items ranked : List α} (found : rank? before items = some ranked) :
    ∀ x ∈ ranked, x ∈ items := by
  unfold rank? at found
  split at found
  · cases found
    exact forall_inserted (by simp) fun _ => id
  split at found
  · exact forall_shortRuns? (fun _ => id) found
  refine Cutting.Keeps.rank? ⟨fun items run all cut => ?_, fun _ _ => forall_split?⟩
    (fun _ => id) found
  cases cut
  exact fun x mem => all x (List.mem_of_mem_take mem)

end Ranking

end DocSieve
