import DocSieve.Embedding.Vector
import DocSieve.Proofs.Numeric.Packing

/-!
# The two zeros

There are a positive and a negative zero, and neither is above zero. A zero times a finite
number is a zero, and so is a sum of zeros: which of the two it is depends on the signs,
but a sum that starts at the negative zero never leaves them. So whatever finite vector a
vector of zeros is multiplied with, their product is not above zero
(`Vector32.isZero_dot_left`, `Vector32.isZero_dot_right`).

Key definitions: `Single.IsZero`, `Vector32.AllZero`, `Vector32.AllFinite`.
Key theorems: `Single.isZero_iff`, `Single.IsZero.not_above`, `Vector32.isZero_dot_left`,
`Vector32.isZero_dot_right`.
-/

namespace DocSieve

open Float.Model Float.Model.UnpackedFloat

namespace Single

/-- The number is one of the two zeros. -/
def IsZero (x : Float32) : Prop := ∃ s, x.toModel.unpack = .zero s

variable {x y : Float32}

theorem isZero_iff : IsZero x ↔ (x == 0.0) = true := by
  have equal : (x == 0.0) = (x.toModel.unpack.compare (.zero .positive) == some .eq) := rfl
  rw [equal]
  unfold IsZero
  rcases x.toModel.unpack with (_ | _) | _ | _ | ⟨_ | _, m, e, hm⟩ <;> simp [UnpackedFloat.compare]

theorem isZero_of_parts {u : UnpackedFloat} (h : ∃ s, u = .zero s) :
    IsZero (.ofModel (.pack u)) := by
  obtain ⟨s, rfl⟩ := h
  exact ⟨s, unpack_pack trivial⟩

theorem IsZero.not_above (h : IsZero x) : ¬ x > 0.0 := by
  obtain ⟨s, parts⟩ := h
  intro above
  have values := ((lt_iff _ _).mp above).2.2
  rw [value, value, parts] at values
  exact lt_irrefl _ values

/-- On either side of a product with finite parts a zero makes it a zero. -/
theorem mul_zero_parts (s : Sign) {u : UnpackedFloat} (finite : u.isFinite = true) :
    (∃ t, mul .binary32 (.zero s) u = .zero t) ∧ ∃ t, mul .binary32 u (.zero s) = .zero t := by
  cases u with
  | notANumber | infinity => cases finite
  | zero t => exact ⟨⟨_, rfl⟩, _, rfl⟩
  | finite t m e hm => exact ⟨⟨_, rfl⟩, _, rfl⟩

theorem IsZero.mul_right (h : IsZero x) (finite : y.isFinite = true) : IsZero (x * y) := by
  obtain ⟨s, parts⟩ := h
  refine isZero_of_parts (u := .mul .binary32 x.toModel.unpack y.toModel.unpack) ?_
  rw [parts]
  exact (mul_zero_parts s finite).1

theorem IsZero.mul_left (h : IsZero y) (finite : x.isFinite = true) : IsZero (x * y) := by
  obtain ⟨s, parts⟩ := h
  refine isZero_of_parts (u := .mul .binary32 x.toModel.unpack y.toModel.unpack) ?_
  rw [parts]
  exact (mul_zero_parts s finite).2

theorem IsZero.add (h : IsZero x) (h' : IsZero y) : IsZero (x + y) := by
  obtain ⟨s, parts⟩ := h
  obtain ⟨t, parts'⟩ := h'
  refine isZero_of_parts (u := .add .binary32 x.toModel.unpack y.toModel.unpack) ?_
  rw [parts, parts']
  cases s <;> cases t <;> exact ⟨_, rfl⟩

theorem IsZero.sqrt (h : IsZero x) : IsZero x.sqrt := by
  obtain ⟨s, parts⟩ := h
  refine isZero_of_parts (u := .sqrt .binary32 x.toModel.unpack) ?_
  rw [parts]
  exact ⟨s, rfl⟩

theorem IsZero.isFinite (h : IsZero x) : x.isFinite = true := by
  obtain ⟨s, parts⟩ := h
  change x.toModel.unpack.isFinite = true
  rw [parts]
  rfl

end Single

namespace Vector32

open Single

/-- Every component is a zero of either sign. -/
def AllZero (v : Vector32) : Prop := ∀ x ∈ v, (x == 0.0) = true

def AllFinite (v : Vector32) : Prop := ∀ x ∈ v, x.isFinite = true

variable {v w : Vector32}

theorem allZero_zeros (n : Nat) : (zeros n).AllZero := by
  intro x mem
  obtain rfl := Array.eq_of_mem_replicate mem
  rfl

theorem AllZero.isZero (zeros : v.AllZero) {x : Float32} (mem : x ∈ v) : IsZero x :=
  isZero_iff.mpr (zeros x mem)

theorem AllZero.allFinite (zeros : v.AllZero) : v.AllFinite :=
  fun _ mem => (zeros.isZero mem).isFinite

/-- A sum of zeros is a zero, for it starts at one. -/
theorem isZero_sum (zeros : ∀ x ∈ v, IsZero x) : IsZero (sum v) := by
  refine Array.foldl_induction (fun _ total => IsZero total) ⟨.negative, rfl⟩ fun i total h => ?_
  exact h.add (zeros _ (Array.getElem_mem i.isLt))

/-- A product of vectors is a zero if all products of components are. -/
theorem isZero_dot (zeros : ∀ x ∈ v, ∀ y ∈ w, IsZero (x * y)) : IsZero (v.dot w) := by
  refine isZero_sum fun x mem => ?_
  obtain ⟨i, bound, rfl⟩ := Array.mem_iff_getElem.mp mem
  rw [Array.size_zipWith] at bound
  rw [Array.getElem_zipWith]
  exact zeros _ (Array.getElem_mem (by omega)) _ (Array.getElem_mem (by omega))

theorem isZero_dot_left (zeros : v.AllZero) (finite : w.AllFinite) : IsZero (v.dot w) :=
  isZero_dot fun _ mem _ mem' => (zeros.isZero mem).mul_right (finite _ mem')

theorem isZero_dot_right (finite : v.AllFinite) (zeros : w.AllZero) : IsZero (v.dot w) :=
  isZero_dot fun _ mem _ mem' => (zeros.isZero mem').mul_left (finite _ mem)

/-- A vector of zeros has no length, so it is not divided by it. -/
theorem normalize_of_allZero (zeros : v.AllZero) : v.normalize = v :=
  if_neg (isZero_dot_left zeros zeros.allFinite).sqrt.not_above

end Vector32

end DocSieve
