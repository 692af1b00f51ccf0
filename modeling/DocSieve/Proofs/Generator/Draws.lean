import DocSieve.Proofs.Generator.Window
import Mathlib

/-!
# Every valid window can be drawn

A number below a range is drawn by the word that is its share of all words, rounded up: the
high half of the product is then the number, and a second word that is zero carries
nothing into it (`exists_drawBelow`). The words for a size and the words for an offset
stand one after the other in the stream, so each valid window is the request of some
stream (`Workload.exists_request`).

Computed in words, with the bounds brought in order one by one, the request is the same: no
range that is drawn from is empty, and no sum leaves the words (`Workload.request?_eq`).

Key definitions: `Supplies`, `drawBetween?`, `Workload.request?`.
Key theorems: `exists_drawBelow`, `Workload.request?_eq`, `Workload.windows_exact`.
-/

namespace DocSieve

/-! ### Words that a number is drawn from -/

/-- A stream goes on with some words from a position on. -/
def Supplies (words : WordStream) (position : Nat) (drawn : List UInt64) : Prop :=
  ∀ i, (bound : i < drawn.length) → words (position + i) = drawn[i]

theorem Supplies.head {words : WordStream} {position : Nat} {word : UInt64} {rest : List UInt64}
    (supplies : Supplies words position (word :: rest)) : words position = word := by
  have first := supplies 0 (by simp)
  rwa [Nat.add_zero, List.getElem_cons_zero] at first

/-- What is drawn first and what is drawn then stand one after the other. -/
theorem Supplies.append {words : WordStream} {position : Nat} {first second : List UInt64}
    (supplies : Supplies words position (first ++ second)) :
    Supplies words position first ∧ Supplies words (position + first.length) second := by
  constructor
  · intro i bound
    have word := supplies i (by rw [List.length_append]; omega)
    rwa [List.getElem_append_left bound] at word
  · intro i bound
    have word := supplies (first.length + i) (by rw [List.length_append]; omega)
    rw [List.getElem_append_right (Nat.le_add_right _ _)] at word
    simpa [Nat.add_assoc] using word

/-- Some stream goes on with any words from any position on. -/
theorem exists_supplies (position : Nat) (drawn : List UInt64) :
    ∃ words, Supplies words position drawn :=
  ⟨fun p => drawn.getD (p - position) 0, fun i bound => by simp [bound]⟩

/-- The share of a number below the range in all words, rounded up. -/
def shareOf (n range : Nat) : Nat := (n * wordCount + (range - 1)) / range

/-- The share is a word, and its product with the range has the number as its high half. -/
theorem shareOf_spec {n range : Nat} (below : n < range) (fits : range ≤ wordCount) :
    shareOf n range < wordCount ∧ shareOf n range * range / wordCount = n := by
  unfold shareOf
  have pos : 0 < range := Nat.zero_lt_of_lt below
  generalize total : n * wordCount + (range - 1) = sum
  have parts : sum / range * range + sum % range = sum := Nat.div_add_mod' sum range
  have rest : sum % range < range := Nat.mod_lt sum pos
  have room : n * wordCount + wordCount ≤ range * wordCount := by
    rw [← Nat.succ_mul]
    exact Nat.mul_le_mul_right wordCount below
  constructor
  · refine Nat.div_lt_of_lt_mul ?_
    omega
  · apply Nat.div_eq_of_lt_le
    · omega
    · rw [Nat.succ_mul]
      omega

/-- **Every number below the range can be drawn.** Where a second word is asked for, a zero
adds nothing. -/
theorem exists_drawBelow {n range : Nat} (below : n < range) (fits : range ≤ wordCount) :
    ∃ drawn : List UInt64, ∀ words position, Supplies words position drawn →
      drawBelow words position range = (n, position + drawn.length) := by
  obtain ⟨small, high⟩ := shareOf_spec below fits
  have product (words : WordStream) (position : Nat)
      (first : words position = UInt64.ofNat (shareOf n range)) :
      (words position).toNat = shareOf n range := by
    rw [first, UInt64.toNat_ofNat_of_lt' small]
  by_cases more : shareOf n range * range % wordCount > wordCount - range
  · refine ⟨[UInt64.ofNat (shareOf n range), 0], fun words position supplies => ?_⟩
    obtain ⟨front, back⟩ : Supplies words position [UInt64.ofNat (shareOf n range)] ∧
        Supplies words (position + 1) [0] := Supplies.append supplies
    have first := product words position front.head
    have second : words (position + 1) = 0 := back.head
    have words_pos : 0 < wordCount := by decide
    have kept : ¬ shareOf n range * range % wordCount ≥ wordCount :=
      Nat.not_le.mpr (Nat.mod_lt _ words_pos)
    unfold drawBelow
    dsimp only
    rw [first, if_pos more, second, UInt64.toNat_zero, Nat.zero_mul, Nat.zero_div, Nat.add_zero,
      if_neg kept, high, List.length_cons, List.length_singleton]
  · refine ⟨[UInt64.ofNat (shareOf n range)], fun words position supplies => ?_⟩
    have first := product words position supplies.head
    unfold drawBelow
    dsimp only
    rw [first, if_neg more, high, List.length_singleton]

/-- **Every number from the least to the greatest can be drawn.** -/
theorem exists_drawBetween {n least greatest : Nat} (lower : least ≤ n) (upper : n ≤ greatest)
    (fits : greatest - least + 1 ≤ wordCount) :
    ∃ drawn : List UInt64, ∀ words position, Supplies words position drawn →
      drawBetween words position least greatest = (n, position + drawn.length) := by
  have below : n - least < greatest - least + 1 := by omega
  obtain ⟨drawn, draws⟩ := exists_drawBelow below fits
  refine ⟨drawn, fun words position supplies => ?_⟩
  unfold drawBetween
  rw [draws words position supplies]
  dsimp only
  rw [Nat.add_sub_cancel' lower]

/-! ### The drawing in words -/

/-- A number from `least` to `greatest`, in words: none if there is no such number, or if
the sum leaves the words. -/
def drawBetween? (words : WordStream) (position : Nat) (least greatest : UInt64) :
    Option (UInt64 × Nat) :=
  if greatest < least then none
  else
    let (n, next) := drawBelow words position (greatest.toNat - least.toNat + 1)
    if least.toNat + n < wordCount then some (least + UInt64.ofNat n, next) else none

theorem drawBetween?_eq (words : WordStream) (position : Nat) {least greatest : UInt64}
    (ordered : least.toNat ≤ greatest.toNat) :
    drawBetween? words position least greatest =
      some (UInt64.ofNat (drawBetween words position least.toNat greatest.toNat).1,
        (drawBetween words position least.toNat greatest.toNat).2) := by
  have nonempty : ¬ greatest < least := by
    rw [UInt64.lt_iff_toNat_lt]
    omega
  have top : greatest.toNat < wordCount := greatest.toNat_lt
  have fits := (drawBetween_bounds words position ordered).2
  unfold drawBetween? drawBetween
  unfold drawBetween at fits
  dsimp only at fits ⊢
  rw [if_neg nonempty, if_pos (by omega), UInt64.ofNat_add, UInt64.ofNat_toNat]

namespace Workload

variable (w : Workload)

/-- A size, in words: the bounds are brought in order one by one. -/
def drawSize? (words : WordStream) (position : Nat) : Option (UInt64 × Nat) :=
  let least := max w.minSize 1
  let greatest := max w.maxSize least
  let greatest := min greatest w.fileSize
  let least := min least w.fileSize
  if greatest ≤ least then some (least, position)
  else drawBetween? words position least greatest

/-- An offset for a window of a size, in words. -/
def drawOffset? (words : WordStream) (position : Nat) (size : UInt64) : Option (UInt64 × Nat) :=
  let greatest := if size ≤ w.fileSize then w.fileSize - size else 0
  if greatest = 0 then some (0, position) else drawBetween? words position 0 greatest

/-- The request with a number, in words: none if there was nothing to draw from, or a sum
left the words. -/
def request? (words : WordStream) (position : Nat) (counter : UInt64) : Option (Request × Nat) := do
  let (size, position) ← w.drawSize? words position
  let (offset, position) ← w.drawOffset? words position size
  return (⟨w.idPrefix ++ "-" ++ Nat.repr counter.toNat, w.path, offset, size⟩, position)

theorem drawSize?_eq (words : WordStream) (position : Nat) :
    w.drawSize? words position =
      some (UInt64.ofNat (w.drawSize words position).1, (w.drawSize words position).2) := by
  have least : (min (max w.minSize 1) w.fileSize).toNat = w.smallest := by
    rw [UInt64.toNat_min, UInt64.toNat_max]
    rfl
  have greatest : (min (max w.maxSize (max w.minSize 1)) w.fileSize).toNat = w.largest := by
    rw [UInt64.toNat_min, UInt64.toNat_max, UInt64.toNat_max]
    rfl
  have single : min (max w.maxSize (max w.minSize 1)) w.fileSize ≤ min (max w.minSize 1) w.fileSize
      ↔ w.largest ≤ w.smallest := by
    rw [UInt64.le_iff_toNat_le, least, greatest]
  have ordered := w.smallest_le_largest
  unfold drawSize? drawSize
  dsimp only
  by_cases one : w.largest ≤ w.smallest
  · rw [if_pos (single.mpr one), if_pos one, ← least, UInt64.ofNat_toNat]
  · rw [if_neg (mt single.mp one), if_neg one, drawBetween?_eq words position (by omega), least,
      greatest]

theorem drawOffset?_eq (words : WordStream) (position : Nat) {size : UInt64}
    (within : size.toNat ≤ w.fileSize.toNat) :
    w.drawOffset? words position size =
      some (UInt64.ofNat (w.drawOffset words position size.toNat).1,
        (w.drawOffset words position size.toNat).2) := by
  have fits : size ≤ w.fileSize := UInt64.le_iff_toNat_le.mpr within
  have greatest : (w.fileSize - size).toNat = w.fileSize.toNat - size.toNat :=
    UInt64.toNat_sub_of_le _ _ fits
  have zero : w.fileSize - size = 0 ↔ w.fileSize.toNat - size.toNat = 0 := by
    rw [← greatest, ← UInt64.toNat_inj, UInt64.toNat_zero]
  unfold drawOffset? drawOffset
  dsimp only
  rw [if_pos fits]
  by_cases full : w.fileSize.toNat - size.toNat = 0
  · rw [if_pos (zero.mpr full), if_pos full]
    rfl
  · rw [if_neg (mt zero.mp full), if_neg full, drawBetween?_eq words position (Nat.zero_le _),
      greatest, UInt64.toNat_zero]

/-- **The request is the one that is computed in words**: no range is empty, and no sum
leaves the words. -/
theorem request?_eq (words : WordStream) (position : Nat) (counter : UInt64) :
    w.request? words position counter = some (w.request words position counter) := by
  have file : w.fileSize.toNat < UInt64.size := w.fileSize.toNat_lt
  have within := Nat.le_trans (w.size_bounds words position).2 w.largest_le_fileSize
  have size : (UInt64.ofNat (w.drawSize words position).1).toNat = (w.drawSize words position).1 :=
    UInt64.toNat_ofNat_of_lt' (Nat.lt_of_le_of_lt within file)
  unfold request? request
  rw [drawSize?_eq]
  dsimp only [Option.bind_eq_bind, Option.bind_some]
  rw [drawOffset?_eq _ _ _ (by rw [size]; exact within), size]
  rfl

/-! ### Every window -/

theorem exists_drawSize {size : Nat} (lower : w.smallest ≤ size) (upper : size ≤ w.largest) :
    ∃ drawn : List UInt64, ∀ words position, Supplies words position drawn →
      w.drawSize words position = (size, position + drawn.length) := by
  have file : w.fileSize.toNat < wordCount := w.fileSize.toNat_lt
  have limit := w.largest_le_fileSize
  by_cases single : w.largest ≤ w.smallest
  · refine ⟨[], fun words position _ => ?_⟩
    unfold drawSize
    rw [if_pos single, show w.smallest = size by omega]
    rfl
  · obtain ⟨drawn, draws⟩ := exists_drawBetween lower upper (by omega)
    refine ⟨drawn, fun words position supplies => ?_⟩
    unfold drawSize
    rw [if_neg single]
    exact draws words position supplies

theorem exists_drawOffset {offset size : Nat} (within : offset + size ≤ w.fileSize.toNat) :
    ∃ drawn : List UInt64, ∀ words position, Supplies words position drawn →
      w.drawOffset words position size = (offset, position + drawn.length) := by
  have file : w.fileSize.toNat < wordCount := w.fileSize.toNat_lt
  by_cases full : w.fileSize.toNat - size = 0
  · refine ⟨[], fun words position _ => ?_⟩
    unfold drawOffset
    dsimp only
    rw [if_pos full, show offset = 0 by omega]
    rfl
  · obtain ⟨drawn, draws⟩ :=
      exists_drawBetween (Nat.zero_le offset) (show offset ≤ w.fileSize.toNat - size by omega)
        (by omega)
    refine ⟨drawn, fun words position supplies => ?_⟩
    unfold drawOffset
    dsimp only
    rw [if_neg full]
    exact draws words position supplies

/-- **Every valid window is the request of some stream.** -/
theorem exists_request (position : Nat) (counter : UInt64) {size offset : Nat}
    (lower : w.smallest ≤ size) (upper : size ≤ w.largest)
    (within : offset + size ≤ w.fileSize.toNat) :
    ∃ words, (w.request words position counter).1.size.toNat = size ∧
      (w.request words position counter).1.offset.toNat = offset := by
  have file : w.fileSize.toNat < UInt64.size := w.fileSize.toNat_lt
  obtain ⟨first, draws⟩ := w.exists_drawSize lower upper
  obtain ⟨second, places⟩ := w.exists_drawOffset within
  obtain ⟨words, supplies⟩ := exists_supplies position (first ++ second)
  obtain ⟨front, back⟩ := supplies.append
  refine ⟨words, ?_⟩
  unfold request
  rw [draws words position front]
  dsimp only
  rw [places words _ back]
  constructor
  · exact UInt64.toNat_ofNat_of_lt' (by omega)
  · exact UInt64.toNat_ofNat_of_lt' (by omega)

/-- The bounds of the sizes as they are asked for, at least one byte, the greatest not below
the least, and neither above the size of the file. -/
theorem bounds_eq :
    w.smallest = min (max w.minSize.toNat 1) w.fileSize.toNat ∧
    w.largest = min (max (max w.maxSize.toNat w.minSize.toNat) 1) w.fileSize.toNat := by
  refine ⟨rfl, ?_⟩
  unfold largest
  rw [Nat.max_assoc]

/-- **The windows that can be drawn are the valid ones.** Every stream of words gives a
request, also when it is computed in words, for a size between the bounds and a window
that ends within the file; and each such window is given by some stream. -/
theorem windows_exact (position : Nat) (counter : UInt64) :
    w.smallest = min (max w.minSize.toNat 1) w.fileSize.toNat ∧
    w.largest = min (max (max w.maxSize.toNat w.minSize.toNat) 1) w.fileSize.toNat ∧
    (∀ words, ∃ request next,
      w.request? words position counter = some (request, next) ∧
      w.request words position counter = (request, next) ∧
      w.smallest ≤ request.size.toNat ∧ request.size.toNat ≤ w.largest ∧
      request.offset.toNat + request.size.toNat ≤ w.fileSize.toNat) ∧
    ∀ size offset : Nat, w.smallest ≤ size → size ≤ w.largest →
      offset + size ≤ w.fileSize.toNat →
      ∃ words request next, w.request? words position counter = some (request, next) ∧
        w.request words position counter = (request, next) ∧
        request.size.toNat = size ∧ request.offset.toNat = offset := by
  obtain ⟨least, greatest⟩ := w.bounds_eq
  refine ⟨least, greatest, ?_, ?_⟩
  · intro words
    refine ⟨_, _, w.request?_eq words position counter, rfl, ?_⟩
    exact w.request_within words position counter
  · intro size offset lower upper within
    obtain ⟨words, drawn⟩ := w.exists_request position counter lower upper within
    exact ⟨words, _, _, w.request?_eq words position counter, rfl, drawn⟩

/-- Of a file of nine bytes the four from the third on can be drawn between the sizes three
and five. -/
theorem windows_exact_nine_bytes :
    let nine : Workload := ⟨3, 5, "window", 10, "nine.txt", 9, none⟩
    ∃ words request next, nine.request? words 0 7 = some (request, next) ∧
      nine.request words 0 7 = (request, next) ∧
      request.size.toNat = 4 ∧ request.offset.toNat = 2 :=
  (windows_exact ⟨3, 5, "window", 10, "nine.txt", 9, none⟩ 0 7).2.2.2 4 2 (by decide)
    (by decide) (by decide)

end Workload

end DocSieve
