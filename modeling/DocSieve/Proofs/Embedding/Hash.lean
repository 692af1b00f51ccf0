import Mathlib
import DocSieve.Embedding.Hash

/-!
# What the hash tells apart

A step of the hash can be undone: the byte is mixed in by an exclusive or, and the
multiplier has an inverse modulo `2^64`. So by induction over the bytes two states that
differ before a byte string differ after it (`fnv1aFrom_inj`), and byte strings that differ
in one byte have different hashes (`fnv1a_separates`).

Offset and multiplier are odd, so the low bit of the hash changes with every odd byte and
with no other: the hash is even if and only if the number of odd bytes is odd
(`even_fnv1a_iff`).

Key definitions: `fnvInverse`.
Key theorems: `fnv1aFrom_inj`, `fnv1a_separates`, `even_fnv1a_iff`.
-/

namespace DocSieve

/-! ### Steps that can be undone -/

/-- The inverse of the multiplier modulo `2^64`. -/
def fnvInverse : UInt64 := 0xce965057aff6957b

theorem fnvPrime_mul_fnvInverse : fnvPrime * fnvInverse = 1 := by decide

theorem mul_fnvPrime_inj {a b : UInt64} : a * fnvPrime = b * fnvPrime ↔ a = b := by
  have undone (c : UInt64) : c * fnvPrime * fnvInverse = c := by
    rw [UInt64.mul_assoc, fnvPrime_mul_fnvInverse, UInt64.mul_one]
  refine ⟨fun h => ?_, congrArg (· * fnvPrime)⟩
  rw [← undone a, h, undone]

/-- One byte keeps two states apart. -/
theorem fnvStep_left_inj {a b : UInt64} (byte : UInt8) :
    fnvStep a byte = fnvStep b byte ↔ a = b := by
  rw [fnvStep, fnvStep, mul_fnvPrime_inj, UInt64.xor_left_inj]

/-- One state tells two bytes apart. -/
theorem fnvStep_right_inj (state : UInt64) {x y : UInt8} :
    fnvStep state x = fnvStep state y ↔ x = y := by
  rw [fnvStep, fnvStep, mul_fnvPrime_inj, UInt64.xor_right_inj, UInt8.toUInt64_inj]

theorem fnv1aFrom_inj {a b : UInt64} (bytes : List UInt8) :
    fnv1aFrom a bytes = fnv1aFrom b bytes ↔ a = b := by
  induction bytes generalizing a b with
  | nil => exact Iff.rfl
  | cons byte bytes ih => exact ih.trans (fnvStep_left_inj byte)

/-- **The hash tells apart what differs in one byte.** While the same bytes are absorbed two
states never merge, so byte strings that differ in one byte, with anything before and
after it, have different hashes. -/
theorem fnv1a_separates (before after : List UInt8) (x y : UInt8) :
    (Function.Injective fun state => fnv1aFrom state after) ∧
      (fnv1a (before ++ [x] ++ after) = fnv1a (before ++ [y] ++ after) ↔ x = y) := by
  refine ⟨fun a b => (fnv1aFrom_inj after).mp, ?_⟩
  rw [fnv1a, fnv1a, fnv1aFrom_append, fnv1aFrom_append, fnv1aFrom_append, fnv1aFrom_append,
    fnv1aFrom_inj]
  exact fnvStep_right_inj _

/-! ### The low bit -/

def oddBytes (bytes : List UInt8) : ℕ := bytes.countP fun byte => Odd byte.toNat

theorem oddBytes_cons (byte : UInt8) (bytes : List UInt8) :
    oddBytes (byte :: bytes) = oddBytes bytes + if Odd byte.toNat then 1 else 0 := by
  simp [oddBytes, List.countP_cons]

theorem even_fnvStep_iff (state : UInt64) (byte : UInt8) :
    Even (fnvStep state byte).toNat ↔ (Even state.toNat ↔ Even byte.toNat) := by
  have odd : ¬ Even fnvPrime.toNat := by decide
  have low (n : ℕ) : Even (n % 2 ^ 64) ↔ Even n := by
    rw [Nat.even_iff, Nat.even_iff, Nat.mod_mod_of_dvd _ (by norm_num)]
  rw [fnvStep, UInt64.toNat_mul, low, Nat.even_mul, or_iff_left odd, UInt64.toNat_xor,
    Nat.even_xor, UInt8.toNat_toUInt64]

theorem even_fnv1aFrom_iff (state : UInt64) (bytes : List UInt8) :
    Even (fnv1aFrom state bytes).toNat ↔ (Even state.toNat ↔ Even (oddBytes bytes)) := by
  induction bytes generalizing state with
  | nil => simp [fnv1aFrom, oddBytes]
  | cons byte bytes ih =>
    change Even (fnv1aFrom (fnvStep state byte) bytes).toNat ↔ _
    rw [ih, even_fnvStep_iff, oddBytes_cons]
    -- An odd byte changes both the parity of the state and that of the number.
    by_cases odd : Odd byte.toNat
    · rw [if_pos odd, Nat.even_add_one, iff_false_right (Nat.not_even_iff_odd.mpr odd)]
      exact not_iff_comm.trans Iff.comm
    · rw [if_neg odd, add_zero, iff_true_right (Nat.not_odd_iff_even.mp odd)]

/-- **The hash is even if and only if the number of odd bytes is odd.** -/
theorem even_fnv1a_iff (bytes : List UInt8) : Even (fnv1a bytes).toNat ↔ Odd (oddBytes bytes) := by
  have odd : ¬ Even fnvOffset.toNat := by decide
  rw [fnv1a, even_fnv1aFrom_iff, iff_false_left odd, Nat.not_even_iff_odd]

end DocSieve
