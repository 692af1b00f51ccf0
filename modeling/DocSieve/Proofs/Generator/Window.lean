import DocSieve.Generator.Window

/-!
# Drawn windows lie within the file

A number is drawn by multiplying a word with the range and keeping the high half of the
product; a second word may carry into it. Neither leads out of the range
(`drawBelow_lt`). So the size of a window lies between the bounds as they were brought
in order, the window ends within the file, and no number is cut off when it is written
into the request (`Workload.request_within`).

Key theorems: `drawBelow_lt`, `Workload.size_bounds`, `Workload.request_within`.
-/

namespace DocSieve

/-- **What is drawn lies below the range**, also where a second word carries. -/
theorem drawBelow_lt (words : WordStream) (position : Nat) {range : Nat} (pos : 0 < range) :
    (drawBelow words position range).1 < range := by
  have word (n : Nat) : (words n).toNat * range + range ≤ wordCount * range := by
    rw [← Nat.succ_mul]
    exact Nat.mul_le_mul_right range (words n).toNat_lt
  have split (n : Nat) : wordCount * ((words n).toNat * range / wordCount)
      + (words n).toNat * range % wordCount = (words n).toNat * range := Nat.div_add_mod _ _
  have high (n : Nat) : (words n).toNat * range / wordCount < range :=
    Nat.div_lt_of_lt_mul (by have := word n; omega)
  unfold drawBelow
  dsimp only
  split
  · dsimp only
    split
    · -- the product and the carry together stay below the number of words times the range
      have first := word position
      have parts := split position
      have carry := high (position + 1)
      unfold wordCount at *
      omega
    · exact high position
  · exact high position

theorem drawBetween_bounds (words : WordStream) (position : Nat) {least greatest : Nat}
    (ordered : least ≤ greatest) :
    least ≤ (drawBetween words position least greatest).1 ∧
      (drawBetween words position least greatest).1 ≤ greatest := by
  have below : (drawBelow words position (greatest - least + 1)).1 < greatest - least + 1 :=
    drawBelow_lt words position (Nat.zero_lt_succ _)
  unfold drawBetween
  dsimp only
  omega

namespace Workload

variable (w : Workload)

theorem smallest_le_largest : w.smallest ≤ w.largest := by
  unfold smallest largest
  omega

theorem largest_le_fileSize : w.largest ≤ w.fileSize.toNat := by
  unfold largest
  omega

theorem smallest_pos (holds : 0 < w.fileSize.toNat) : 0 < w.smallest := by
  unfold smallest
  omega

theorem size_bounds (words : WordStream) (position : Nat) :
    w.smallest ≤ (w.drawSize words position).1 ∧ (w.drawSize words position).1 ≤ w.largest := by
  have ordered := w.smallest_le_largest
  unfold drawSize
  split
  · exact ⟨Nat.le_refl _, ordered⟩
  · exact drawBetween_bounds words position ordered

theorem offset_add_le (words : WordStream) (position : Nat) {size : Nat}
    (within : size ≤ w.fileSize.toNat) :
    (w.drawOffset words position size).1 + size ≤ w.fileSize.toNat := by
  unfold drawOffset
  dsimp only
  split
  · omega
  · have bounds := drawBetween_bounds words position (Nat.zero_le (w.fileSize.toNat - size))
    omega

/-- **The window of a request ends within the file**, and its size lies between the
bounds. -/
theorem request_within (words : WordStream) (position : Nat) (counter : UInt64) :
    w.smallest ≤ (w.request words position counter).1.size.toNat ∧
      (w.request words position counter).1.size.toNat ≤ w.largest ∧
      (w.request words position counter).1.offset.toNat
        + (w.request words position counter).1.size.toNat ≤ w.fileSize.toNat := by
  have file : w.fileSize.toNat < UInt64.size := w.fileSize.toNat_lt
  have limit := w.largest_le_fileSize
  obtain ⟨least, greatest⟩ := w.size_bounds words position
  have ends := w.offset_add_le words (w.drawSize words position).2 (Nat.le_trans greatest limit)
  unfold request
  dsimp only
  rw [UInt64.toNat_ofNat_of_lt' (by omega), UInt64.toNat_ofNat_of_lt' (by omega)]
  exact ⟨least, greatest, ends⟩

end Workload

end DocSieve
