import DocSieve.Ranking.Basic
import Mathlib.Data.List.Induction

/-!
# The first item of a ranking by insertion

An item that is put in goes past those that it goes before, from the last one on, and
stops at the first that it does not. So it comes to stand first only if it goes before
all that are there. Nothing is asked of the comparison: the item that stands first in
the end goes before all that stood before it in the list, and an item does stand first
if it goes before all earlier ones and no later one goes before it.

Key theorems: `Ranking.inserted_perm`, `Ranking.head?_inserted_concat`,
`Ranking.head?_inserted_iff`.
-/

namespace DocSieve

namespace Ranking

variable {α : Type} (before : α → α → Bool)

theorem insertLast_perm (item : α) (ranked : List α) :
    (insertLast before item ranked).Perm (item :: ranked) := by
  induction ranked with
  | nil => exact List.Perm.refl _
  | cons last rest ih =>
    unfold insertLast
    split
    · exact (ih.cons last).trans (List.Perm.swap item last rest)
    · exact List.Perm.refl _

theorem inserted_concat (ranked items : List α) (item : α) :
    inserted before ranked (items ++ [item]) =
      (insertLast before item (inserted before ranked items).reverse).reverse := by
  simp [inserted]

theorem inserted_perm (ranked items : List α) :
    (inserted before ranked items).Perm (ranked ++ items) := by
  induction items using List.reverseRecOn with
  | nil => simp [inserted]
  | append_singleton items item ih =>
    rw [inserted_concat, ← List.append_assoc]
    refine (List.reverse_perm _).trans ((insertLast_perm before item _).trans ?_)
    refine (((List.reverse_perm _).trans ih).cons item).trans ?_
    exact (List.perm_append_singleton item _).symm

/-- The first of the items stands last when they stand last first. -/
theorem getLast?_insertLast (item : α) (ranked : List α) :
    (insertLast before item ranked).getLast? =
      if ranked.all (before item) then some item else ranked.getLast? := by
  induction ranked with
  | nil => rfl
  | cons last rest ih =>
    unfold insertLast
    by_cases goes : before item last = true
    · have some_left : insertLast before item rest ≠ [] :=
        List.ne_nil_of_mem ((insertLast_perm before item rest).mem_iff.mpr List.mem_cons_self)
      rw [if_pos goes, List.getLast?_cons_of_ne_nil some_left, ih, List.all_cons, goes,
        Bool.true_and]
      cases rest with
      | nil => rfl
      | cons next rest => rw [List.getLast?_cons_cons]
    · rw [if_neg goes, List.getLast?_cons_cons, List.all_cons, (Bool.not_eq_true _).mp goes,
        Bool.false_and, if_neg Bool.false_ne_true]

theorem head?_inserted_concat (items : List α) (item : α) :
    (inserted before [] (items ++ [item])).head? =
      if items.all (before item) then some item else (inserted before [] items).head? := by
  have same : (inserted before [] items).reverse.all (before item) = items.all (before item) := by
    rw [List.all_reverse]
    exact (inserted_perm before [] items).all_eq
  rw [inserted_concat, List.head?_reverse, getLast?_insertLast, same, List.getLast?_reverse]

/-- An item stands first if it goes before all earlier ones and no later one goes before
it. -/
theorem head?_inserted_of_first {earlier later : List α} {first : α}
    (beats : ∀ item ∈ earlier, before first item = true)
    (unbeaten : ∀ item ∈ later, before item first = false) :
    (inserted before [] (earlier ++ first :: later)).head? = some first := by
  induction later using List.reverseRecOn with
  | nil => rw [head?_inserted_concat, if_pos (List.all_eq_true.mpr beats)]
  | append_singleton later item ih =>
    have kept : ¬ (earlier ++ first :: later).all (before item) = true := by
      intro all
      have goes := List.all_eq_true.mp all first (by simp)
      rw [unbeaten item (by simp)] at goes
      cases goes
    rw [← List.cons_append, ← List.append_assoc, head?_inserted_concat, if_neg kept]
    exact ih fun x mem => unbeaten x (List.mem_append_left _ mem)

/-- The item that stands first goes before all that stood before it. -/
theorem exists_of_head?_inserted {items : List α} {first : α}
    (head : (inserted before [] items).head? = some first) :
    ∃ earlier later, items = earlier ++ first :: later ∧
      ∀ item ∈ earlier, before first item = true := by
  induction items using List.reverseRecOn with
  | nil => cases head
  | append_singleton items item ih =>
    rw [head?_inserted_concat] at head
    split at head
    · rename_i all
      obtain rfl := Option.some.inj head
      exact ⟨items, [], rfl, List.all_eq_true.mp all⟩
    · obtain ⟨earlier, later, rfl, beats⟩ := ih head
      exact ⟨earlier, later ++ [item], by simp, beats⟩

/-- An item that no later one goes before stands first if and only if it goes before all
earlier ones, unless it is one of them. -/
theorem head?_inserted_iff {earlier later : List α} {first : α} (new : first ∉ earlier)
    (unbeaten : ∀ item ∈ later, before item first = false) :
    (inserted before [] (earlier ++ first :: later)).head? = some first ↔
      ∀ item ∈ earlier, before first item = true := by
  refine ⟨fun head item mem => ?_, fun beats => head?_inserted_of_first before beats unbeaten⟩
  obtain ⟨front, rest, split, beats⟩ := exists_of_head?_inserted before head
  refine beats item ?_
  -- The item does not occur in the earlier ones, so all of them stand in front of it.
  rcases List.append_eq_append_iff.mp split with ⟨more, rfl, -⟩ | ⟨more, rfl, same⟩
  · exact List.mem_append_left _ mem
  · cases more with
    | nil => simpa using mem
    | cons other more =>
      obtain ⟨rfl, -⟩ := List.cons.inj same
      exact absurd (by simp) new

end Ranking

end DocSieve
