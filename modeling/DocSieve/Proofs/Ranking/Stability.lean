import DocSieve.Proofs.Ranking.Insertion

/-!
# A ranking by insertion is stable

Where the comparison is that of a strict order, up to items that are equal to it, a list
ranked by insertion is in that order, and of two items neither of which goes before the
other the one that stood earlier still does (`pairwise_inserted`). What "earlier" means is
left open: any relation that the list was in the order of. So items can be ranked by where
they stand, and only then be looked up (`inserted_map`).

Key definitions: `Ranking.IsOrder`, `Ranking.Ahead`.
Key theorems: `Ranking.inserted_map`, `Ranking.pairwise_inserted`.
-/

namespace DocSieve

namespace Ranking

variable {α β : Type} {before : α → α → Bool}

/-! ### Ranking what is looked up -/

theorem insertLast_map (f : β → α) (item : β) (ranked : List β) :
    insertLast before (f item) (ranked.map f)
      = (insertLast (fun x y => before (f x) (f y)) item ranked).map f := by
  induction ranked with
  | nil => rfl
  | cons last rest ih =>
    simp only [List.map_cons, insertLast]
    split
    · rw [ih, List.map_cons]
    · rfl

/-- Items are ranked as what they are looked up to. -/
theorem inserted_map (f : β → α) (items : List β) :
    inserted before [] (items.map f)
      = (inserted (fun x y => before (f x) (f y)) [] items).map f := by
  induction items using List.reverseRecOn with
  | nil => rfl
  | append_singleton items item ih =>
    rw [List.map_append, List.map_singleton, inserted_concat, inserted_concat, ih,
      ← List.map_reverse, insertLast_map, List.map_reverse]

/-! ### The order of a ranking -/

/-- The comparison puts the items in a strict order, up to items that are equal to it. -/
structure IsOrder (before : α → α → Bool) : Prop where
  asymm : ∀ x y, before x y = true → before y x = false
  /-- Whatever stands between is parted from one of the two. -/
  splits : ∀ x y z, before x z = true → before x y = true ∨ before y z = true

/-- The place of an item ahead of another is right: the other does not go before it, and
stood later unless the item goes before it. -/
def Ahead (before : α → α → Bool) (earlier : α → α → Prop) (x y : α) : Prop :=
  before y x = false ∧ (before x y = false → earlier x y)

variable {earlier : α → α → Prop} (order : IsOrder before)

include order

/-- One more item, later than all that are ranked, comes to its place among them. -/
theorem pairwise_insertLast {item : α} {ranked : List α} (last : ∀ x ∈ ranked, earlier x item)
    (ordered : ranked.Pairwise fun y x => Ahead before earlier x y) :
    (insertLast before item ranked).Pairwise fun y x => Ahead before earlier x y := by
  induction ranked with
  | nil => exact List.pairwise_singleton _ _
  | cons y rest ih =>
    obtain ⟨ahead, ordered⟩ := List.pairwise_cons.mp ordered
    have inserted := ih (fun x mem => last x (List.mem_cons_of_mem y mem)) ordered
    unfold insertLast
    by_cases goes : before item y = true
    · rw [if_pos goes, List.pairwise_cons]
      refine ⟨fun x mem => ?_, inserted⟩
      rcases List.mem_cons.mp ((insertLast_perm before item rest).subset mem) with rfl | mem
      · refine ⟨order.asymm _ _ goes, fun stays => ?_⟩
        rw [goes] at stays
        cases stays
      · exact ahead x mem
    · rw [if_neg goes, List.pairwise_cons]
      refine ⟨fun x mem => ⟨?_, fun _ => last x mem⟩, List.pairwise_cons.mpr ⟨ahead, ordered⟩⟩
      -- The item would go before `y` too if it went before one that is ahead of `y`.
      by_contra beats
      rw [Bool.not_eq_false] at beats
      rcases List.mem_cons.mp mem with rfl | mem
      · exact goes beats
      · rcases order.splits item y x beats with beats | beats
        · exact goes beats
        · rw [(ahead x mem).1] at beats
          cases beats

/-- **A ranking by insertion is in order, and stable.** -/
theorem pairwise_inserted {items : List α} (stood : items.Pairwise earlier) :
    (inserted before [] items).Pairwise (Ahead before earlier) := by
  induction items using List.reverseRecOn with
  | nil => exact List.Pairwise.nil
  | append_singleton items item ih =>
    obtain ⟨stood, -, last⟩ := List.pairwise_append.mp stood
    rw [inserted_concat, List.pairwise_reverse]
    refine pairwise_insertLast order (fun x mem => last x ?_ item (List.mem_singleton_self _))
      (List.pairwise_reverse.mpr (ih stood))
    simpa using (inserted_perm before [] items).subset (List.mem_reverse.mp mem)

end Ranking

end DocSieve
