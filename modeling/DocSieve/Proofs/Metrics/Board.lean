import DocSieve.Metrics.Board
import Mathlib.Data.String.Basic

/-!
# The board remembers each stage apart

The board is a list by ascending names, and it stays one. Changing the counts of
one stage changes what the board says of this stage and of no other. Changes of
different stages can be made in either order.

Key definition: `Board.Ascending`.
Key theorems: `Board.stats_update`, `Board.update_comm`.
-/

namespace DocSieve

namespace Board

/-- No name is twice on the board, and names ascend. -/
def Ascending (board : Board) : Prop := board.Pairwise (·.1 < ·.1)

variable {board : Board} {name other : String} {change change' : StageStats → StageStats}

theorem ascending_nil : Ascending [] := List.Pairwise.nil

theorem mem_update {entry : String × StageStats} (h : entry ∈ board.update name change) :
    entry.1 = name ∨ ∃ old ∈ board, old.1 = entry.1 := by
  induction board with
  | nil =>
    simp only [update, List.mem_singleton] at h
    exact .inl (congrArg Prod.fst h)
  | cons head rest ih =>
    unfold update at h
    split_ifs at h with heq hlt
    · rcases List.mem_cons.mp h with rfl | h
      · exact .inl heq.symm
      · exact .inr ⟨entry, List.mem_cons_of_mem _ h, rfl⟩
    · rcases List.mem_cons.mp h with rfl | h
      · exact .inl rfl
      · exact .inr ⟨entry, h, rfl⟩
    · rcases List.mem_cons.mp h with rfl | h
      · exact .inr ⟨head, List.mem_cons_self, rfl⟩
      · rcases ih h with h | ⟨old, hold, h⟩
        · exact .inl h
        · exact .inr ⟨old, List.mem_cons_of_mem _ hold, h⟩

theorem Ascending.update (h : board.Ascending) (name : String)
    (change : StageStats → StageStats) : (board.update name change).Ascending := by
  induction board with
  | nil => exact List.pairwise_singleton _ _
  | cons head rest ih =>
    obtain ⟨hhead, hrest⟩ := List.pairwise_cons.mp h
    unfold Board.update
    split_ifs with heq hlt
    · exact List.pairwise_cons.mpr ⟨hhead, hrest⟩
    · refine List.pairwise_cons.mpr ⟨fun entry hentry => ?_, h⟩
      rcases List.mem_cons.mp hentry with rfl | hentry
      · exact hlt
      · exact hlt.trans (hhead entry hentry)
    · have hgt : head.1 < name := lt_of_le_of_ne (not_lt.mp hlt) (Ne.symm heq)
      refine List.pairwise_cons.mpr ⟨fun entry hentry => ?_, ih hrest⟩
      rcases mem_update hentry with h | ⟨old, hold, h⟩
      · rw [h]
        exact hgt
      · rw [← h]
        exact hhead old hold

theorem stats_cons (head : String × StageStats) (rest : Board) (name : String) :
    stats (head :: rest) name = if name = head.1 then head.2 else rest.stats name := by
  obtain ⟨first, stats⟩ := head
  unfold Board.stats
  rw [List.lookup_cons]
  by_cases h : name = first
  · simp [h]
  · have hne : (name == first) = false := by simpa using h
    simp [h, hne]

theorem stats_of_lt (h : ∀ entry ∈ board, name < entry.1) : board.stats name = .zero := by
  induction board with
  | nil => rfl
  | cons head rest ih =>
    have hne : name ≠ head.1 := (h head List.mem_cons_self).ne
    rw [stats_cons, if_neg hne]
    exact ih fun entry hentry => h entry (List.mem_cons_of_mem _ hentry)

/-- **A change of one stage is a change of this stage only.** -/
theorem stats_update (h : board.Ascending) :
    (board.update name change).stats other =
      if other = name then change (board.stats other) else board.stats other := by
  induction board with
  | nil =>
    rw [update, stats_cons]
    rfl
  | cons head rest ih =>
    obtain ⟨hhead, hrest⟩ := List.pairwise_cons.mp h
    unfold update
    by_cases heq : name = head.1
    · rw [if_pos heq, stats_cons, stats_cons, heq]
      by_cases hother : other = head.1
      · rw [if_pos hother, if_pos hother, if_pos hother]
      · rw [if_neg hother, if_neg hother, if_neg hother]
    rw [if_neg heq]
    by_cases hlt : name < head.1
    · rw [if_pos hlt, stats_cons]
      by_cases hother : other = name
      · -- the name was not on the board
        have hzero : stats (head :: rest) name = .zero := by
          refine stats_of_lt fun entry hentry => ?_
          rcases List.mem_cons.mp hentry with rfl | hentry
          · exact hlt
          · exact hlt.trans (hhead entry hentry)
        rw [if_pos hother, if_pos hother, hother, hzero]
      · rw [if_neg hother, if_neg hother]
    · rw [if_neg hlt, stats_cons, stats_cons, ih hrest]
      by_cases hother : other = head.1
      · have hne : other ≠ name := fun e => heq (e.symm.trans hother)
        rw [if_pos hother, if_pos hother, if_neg hne]
      · rw [if_neg hother, if_neg hother]

/-! ### The order of changes -/

theorem update_of_lt {first : String} (lt : name < first) (stats : StageStats) (rest : Board) :
    update name change ((first, stats) :: rest) =
      (name, change .zero) :: (first, stats) :: rest := by
  rw [update, if_neg lt.ne, if_pos lt]

theorem update_head (stats : StageStats) (rest : Board) :
    update name change ((name, stats) :: rest) = (name, change stats) :: rest := by
  rw [update, if_pos rfl]

theorem update_of_gt {first : String} (gt : first < name) (stats : StageStats) (rest : Board) :
    update name change ((first, stats) :: rest) =
      (first, stats) :: update name change rest := by
  rw [update, if_neg gt.ne', if_neg gt.not_gt]

/-- Changes of two stages can be made in either order, and so can changes of one stage
that do not depend on each other. -/
theorem update_comm
    (comm : name = other → ∀ stats, change (change' stats) = change' (change stats)) :
    (board.update name change).update other change' =
      (board.update other change').update name change := by
  induction board with
  | nil =>
    rw [update, update]
    rcases lt_trichotomy name other with lt | rfl | gt
    · rw [update_of_gt lt, update_of_lt lt, update]
    · rw [update_head, update_head, comm rfl]
    · rw [update_of_lt gt, update_of_gt gt, update]
  | cons head rest ih =>
    obtain ⟨first, stats⟩ := head
    rcases lt_trichotomy name first with lt | rfl | gt
    · rw [update_of_lt lt]
      rcases lt_trichotomy other first with lt' | rfl | gt'
      · rw [update_of_lt lt']
        rcases lt_trichotomy name other with before | rfl | after
        · rw [update_of_gt before, update_of_lt lt', update_of_lt before]
        · rw [update_head, update_head, comm rfl]
        · rw [update_of_lt after, update_of_gt after, update_of_lt lt]
      · rw [update_of_gt lt, update_head, update_of_lt lt]
      · rw [update_of_gt (lt.trans gt'), update_of_gt gt', update_of_lt lt]
    · rw [update_head]
      rcases lt_trichotomy other name with lt' | rfl | gt'
      · rw [update_of_lt lt', update_of_lt lt', update_of_gt lt', update_head]
      · rw [update_head, update_head, update_head, comm rfl]
      · rw [update_of_gt gt', update_of_gt gt', update_head]
    · rw [update_of_gt gt]
      rcases lt_trichotomy other first with lt' | rfl | gt'
      · rw [update_of_lt lt', update_of_lt lt', update_of_gt (lt'.trans gt), update_of_gt gt]
      · rw [update_head, update_head, update_of_gt gt]
      · rw [update_of_gt gt', update_of_gt gt', update_of_gt gt, ih]

end Board

end DocSieve
