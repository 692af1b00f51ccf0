import DocSieve.Text.Utf8
import Mathlib.Data.List.Basic

/-!
# Reading what was encoded

A character is encoded by one to four bytes: the first tells how many there are, and the
others, which continue it, begin nothing (`Encodes.continues`). So the reader
holds a character for as long as bytes of it are missing (`foldl_take`) and has read it
afterwards (`foldl_encodeChar`), while each byte that continues a character of which the
first byte is not there is replaced by itself (`foldl_continues`). Together, the bytes of
a text between such bytes and the beginning of another character are read as that text
between replacements (`decodeLossy_cut`).

Key definitions: `encoded`, `Continues`, `Encodes`.
Key theorems: `foldl_encodeChar`, `foldl_take`, `foldl_continues`, `decodeLossy_cut`.
-/

namespace DocSieve

def encoded (text : List Char) : List UInt8 := text.flatMap String.utf8EncodeChar

@[simp] theorem encoded_nil : encoded [] = [] := rfl

@[simp] theorem encoded_cons (c : Char) (text : List Char) :
    encoded (c :: text) = String.utf8EncodeChar c ++ encoded text := List.flatMap_cons

@[simp] theorem encoded_append (text more : List Char) :
    encoded (text ++ more) = encoded text ++ encoded more := List.flatMap_append

theorem toUTF8_eq_encoded (text : String) : text.toUTF8.data.toList = encoded text.toList := by
  rw [String.toUTF8_eq_toByteArray, ← String.utf8Encode_toList, List.utf8Encode,
    List.toList_data_toByteArray]
  rfl

/-! ### The bytes of a character -/

/-- A byte that continues a character. -/
def Continues (b : UInt8) : Prop := 0x80 ≤ b.toNat ∧ b.toNat ≤ 0xbf

/-- The bytes of a character, by their number. -/
inductive Encodes (c : Char) : List UInt8 → Prop
  | one {a : UInt8} (below : c.toNat < 0x80) (first : a.toNat = c.toNat) : Encodes c [a]
  | two {a b : UInt8} (least : 0x80 ≤ c.toNat) (below : c.toNat < 0x800)
      (first : a.toNat = 0xc0 + c.toNat / 64) (second : b.toNat = 0x80 + c.toNat % 64) :
      Encodes c [a, b]
  | three {a b d : UInt8} (least : 0x800 ≤ c.toNat) (below : c.toNat < 0x10000)
      (first : a.toNat = 0xe0 + c.toNat / 4096) (second : b.toNat = 0x80 + c.toNat / 64 % 64)
      (third : d.toNat = 0x80 + c.toNat % 64) : Encodes c [a, b, d]
  | four {a b d e : UInt8} (least : 0x10000 ≤ c.toNat)
      (first : a.toNat = 0xf0 + c.toNat / 262144) (second : b.toNat = 0x80 + c.toNat / 4096 % 64)
      (third : d.toNat = 0x80 + c.toNat / 64 % 64) (fourth : e.toNat = 0x80 + c.toNat % 64) :
      Encodes c [a, b, d, e]

theorem toNat_valid (c : Char) :
    c.toNat < 0xd800 ∨ 0xdfff < c.toNat ∧ c.toNat < 0x110000 := c.valid

theorem encodes (c : Char) : Encodes c (String.utf8EncodeChar c) := by
  have valid := toNat_valid c
  have byte (n : Nat) (small : n < 256) : (UInt8.ofNat n).toNat = n :=
    UInt8.toNat_ofNat_of_lt' small
  unfold String.utf8EncodeChar
  dsimp only
  rw [show c.val.toNat = c.toNat from rfl]
  split_ifs
  · apply Encodes.one
    · omega
    · rw [byte _ (by omega)]
  · apply Encodes.two
    · omega
    · omega
    · rw [byte _ (by omega)]
      omega
    · rw [byte _ (by omega)]
      omega
  · apply Encodes.three
    · omega
    · omega
    all_goals
      rw [byte _ (by omega)]
      omega
  · apply Encodes.four
    · omega
    all_goals
      rw [byte _ (by omega)]
      omega

theorem Encodes.continues {c : Char} {bytes : List UInt8} (h : Encodes c bytes) :
    ∀ b ∈ bytes.tail, Continues b := by
  intro b mem
  unfold Continues
  cases h with
  | one => simp at mem
  | two =>
    obtain rfl : b = _ := by simpa using mem
    omega
  | three =>
    obtain rfl | rfl : b = _ ∨ b = _ := by simpa using mem
    all_goals omega
  | four =>
    obtain rfl | rfl | rfl : b = _ ∨ b = _ ∨ b = _ := by simpa using mem
    all_goals omega

namespace Utf8Machine

/-! ### The reader within a character -/

/-- What is begun becomes this character by these bytes. -/
inductive Awaits (c : Char) : Utf8Pending → List UInt8 → Prop
  | last {p : Utf8Pending} {b : UInt8} (one : p.missing = 1)
      (allowed : p.least ≤ b.toNat ∧ b.toNat ≤ p.greatest)
      (whole : 64 * p.bits + (b.toNat - 0x80) = c.toNat) : Awaits c p [b]
  | more {p : Utf8Pending} {b : UInt8} {rest : List UInt8} (several : p.missing ≠ 1)
      (allowed : p.least ≤ b.toNat ∧ b.toNat ≤ p.greatest)
      (awaits : Awaits c ⟨64 * p.bits + (b.toNat - 0x80), p.missing - 1, 0x80, 0xbf⟩ rest) :
      Awaits c p (b :: rest)

variable {c : Char} {p : Utf8Pending} {rest : List UInt8}

theorem Awaits.foldl (h : Awaits c p rest) (read : List Char) :
    rest.foldl step ⟨some p, read⟩ = ⟨none, c :: read⟩ := by
  induction h with
  | last one allowed whole =>
    rw [List.foldl_cons, List.foldl_nil, step]
    dsimp only
    rw [if_pos allowed, if_pos one, whole, Char.ofNat_toNat]
  | more several allowed _ ih =>
    rw [List.foldl_cons, step]
    dsimp only
    rw [if_pos allowed, if_neg several, ih]

theorem Awaits.foldl_take (h : Awaits c p rest) (read : List Char) {n : Nat}
    (few : n < rest.length) : ∃ q, (rest.take n).foldl step ⟨some p, read⟩ = ⟨some q, read⟩ := by
  induction h generalizing n with
  | last =>
    obtain rfl : n = 0 := by simpa using few
    exact ⟨_, rfl⟩
  | more several allowed _ ih =>
    cases n with
    | zero => exact ⟨_, rfl⟩
    | succ n =>
      obtain ⟨q, reads⟩ := ih (Nat.lt_of_succ_lt_succ few)
      refine ⟨q, ?_⟩
      rw [List.take_succ_cons, List.foldl_cons, step]
      dsimp only
      rw [if_pos allowed, if_neg several, reads]

end Utf8Machine

section Start

variable {b : UInt8}

theorem utf8Start_single (below : b.toNat < 0x80) : utf8Start b = .single (Char.ofNat b.toNat) :=
  if_pos below

theorem utf8Start_two (least : 0xc2 ≤ b.toNat) (below : b.toNat < 0xe0) :
    utf8Start b = .longer ⟨b.toNat - 0xc0, 1, 0x80, 0xbf⟩ := by
  unfold utf8Start
  dsimp only
  rw [if_neg (by omega), if_neg (by omega), if_pos below]

theorem utf8Start_three (least : 0xe0 ≤ b.toNat) (below : b.toNat < 0xf0) :
    utf8Start b = .longer ⟨b.toNat - 0xe0, 2, if b.toNat = 0xe0 then 0xa0 else 0x80,
      if b.toNat = 0xed then 0x9f else 0xbf⟩ := by
  unfold utf8Start
  dsimp only
  rw [if_neg (by omega), if_neg (by omega), if_neg (by omega), if_pos below]

theorem utf8Start_four (least : 0xf0 ≤ b.toNat) (below : b.toNat < 0xf5) :
    utf8Start b = .longer ⟨b.toNat - 0xf0, 3, if b.toNat = 0xf0 then 0x90 else 0x80,
      if b.toNat = 0xf4 then 0x8f else 0xbf⟩ := by
  unfold utf8Start
  dsimp only
  rw [if_neg (by omega), if_neg (by omega), if_neg (by omega), if_neg (by omega), if_pos below]

theorem utf8Start_of_continues (h : Continues b) : utf8Start b = .invalid := by
  obtain ⟨least, greatest⟩ := h
  unfold utf8Start
  dsimp only
  rw [if_neg (by omega), if_pos (by omega)]

end Start

/-- The first byte of a character is all of it, or begins what the others complete. -/
theorem Encodes.start {c : Char} {bytes : List UInt8} (h : Encodes c bytes) :
    (∃ b, bytes = [b] ∧ utf8Start b = .single c) ∨
      ∃ b rest p, bytes = b :: rest ∧ utf8Start b = .longer p ∧ Utf8Machine.Awaits c p rest := by
  have valid := toNat_valid c
  cases h with
  | one below first =>
    refine .inl ⟨_, rfl, ?_⟩
    rw [utf8Start_single (by omega), first, Char.ofNat_toNat]
  | two least below first second =>
    refine .inr ⟨_, _, _, rfl, utf8Start_two (by omega) (by omega), ?_⟩
    apply Utf8Machine.Awaits.last rfl <;> dsimp only <;> omega
  | three least below first second third =>
    refine .inr ⟨_, _, _, rfl, utf8Start_three (by omega) (by omega), ?_⟩
    apply Utf8Machine.Awaits.more (by simp)
    · -- neither too long for its bits nor a surrogate
      dsimp only
      split_ifs <;> omega
    · apply Utf8Machine.Awaits.last rfl <;> dsimp only <;> omega
  | four least first second third fourth =>
    refine .inr ⟨_, _, _, rfl, utf8Start_four (by omega) (by omega), ?_⟩
    apply Utf8Machine.Awaits.more (by simp)
    · -- neither too long for its bits nor beyond the last character
      dsimp only
      split_ifs <;> omega
    · apply Utf8Machine.Awaits.more (by simp)
      · dsimp only
        omega
      · apply Utf8Machine.Awaits.last rfl <;> dsimp only <;> omega

namespace Utf8Machine

variable (c : Char) (text read : List Char)

theorem foldl_encodeChar :
    (String.utf8EncodeChar c).foldl step ⟨none, read⟩ = ⟨none, c :: read⟩ := by
  rcases (encodes c).start with ⟨b, bytes, start⟩ | ⟨b, rest, p, bytes, start, awaits⟩
  · rw [bytes, List.foldl_cons, List.foldl_nil, step]
    dsimp only
    rw [begin, start]
  · rw [bytes, List.foldl_cons, step]
    dsimp only
    rw [begin, start]
    exact awaits.foldl read

/-- The first bytes of a character, if not all, only begin it. -/
theorem foldl_take {n : Nat} (pos : 0 < n) (few : n < c.utf8Size) :
    ∃ p, ((String.utf8EncodeChar c).take n).foldl step ⟨none, read⟩ = ⟨some p, read⟩ := by
  obtain ⟨n, rfl⟩ := Nat.exists_eq_add_of_lt pos
  rw [← String.length_utf8EncodeChar] at few
  rcases (encodes c).start with ⟨b, bytes, start⟩ | ⟨b, rest, p, bytes, start, awaits⟩
  · rw [bytes, List.length_singleton] at few
    omega
  · rw [bytes, Nat.zero_add, List.take_succ_cons, List.foldl_cons, step]
    dsimp only
    rw [begin, start]
    rw [bytes, List.length_cons] at few
    exact awaits.foldl_take read (by omega)

theorem foldl_encoded :
    (encoded text).foldl step ⟨none, read⟩ = ⟨none, text.reverse ++ read⟩ := by
  induction text generalizing read with
  | nil => rfl
  | cons c text ih =>
    rw [encoded_cons, List.foldl_append, foldl_encodeChar, ih, List.reverse_cons,
      List.append_assoc]
    rfl

/-- Bytes that continue what was not begun are replaced one by one. -/
theorem foldl_continues {bytes : List UInt8} (continues : ∀ b ∈ bytes, Continues b) :
    bytes.foldl step ⟨none, read⟩ = ⟨none, List.replicate bytes.length replacement ++ read⟩ := by
  induction bytes generalizing read with
  | nil => rfl
  | cons b bytes ih =>
    obtain ⟨first, others⟩ := List.forall_mem_cons.mp continues
    rw [List.foldl_cons, step]
    dsimp only
    rw [begin, utf8Start_of_continues first]
    dsimp only
    rw [ih _ others, List.length_cons, List.replicate_succ', List.append_assoc]
    rfl

end Utf8Machine

/-! ### A text that is cut -/

/-- So many bytes into what stands behind a place of a text: into a character, or none. -/
inductive Cut : List Char → Nat → Prop
  | between : Cut [] 0
  | within {c : Char} {n : Nat} (pos : 0 < n) (few : n < c.utf8Size) : Cut [c] n

theorem length_encoded_singleton (c : Char) : (encoded [c]).length = c.utf8Size := by
  simp [encoded]

/-- Every place in the bytes of a text lies between two of its characters or within one. -/
theorem exists_cut {text : List Char} {n : Nat} (reached : n ≤ (encoded text).length) :
    ∃ before cut after bytes, text = before ++ cut ++ after ∧
      n = (encoded before).length + bytes ∧ Cut cut bytes := by
  induction text generalizing n with
  | nil => exact ⟨[], [], [], 0, rfl, by simpa using reached, .between⟩
  | cons c text ih =>
    rw [encoded_cons, List.length_append, String.length_utf8EncodeChar] at reached
    by_cases front : n = 0
    · exact ⟨[], [], c :: text, 0, rfl, front, .between⟩
    · by_cases inside : n < c.utf8Size
      · exact ⟨[], [c], text, n, rfl, by simp, .within (Nat.pos_of_ne_zero front) inside⟩
      · obtain ⟨before, cut, after, bytes, rfl, place, cuts⟩ :=
          ih (n := n - c.utf8Size) (by omega)
        refine ⟨c :: before, cut, after, bytes, by simp, ?_, cuts⟩
        rw [encoded_cons, List.length_append, String.length_utf8EncodeChar]
        omega

namespace Cut

variable {cut : List Char} {n : Nat}

theorem le_length (h : Cut cut n) : n ≤ (encoded cut).length := by
  cases h with
  | between => exact Nat.le_refl 0
  | within _ few =>
    rw [length_encoded_singleton]
    exact Nat.le_of_lt few

theorem eq_nil_or (h : Cut cut n) : cut = [] ∨ ∃ c, cut = [c] := by
  cases h with
  | between => exact .inl rfl
  | within => exact .inr ⟨_, rfl⟩

theorem length_drop_le (h : Cut cut n) : ((encoded cut).drop n).length ≤ 3 := by
  rw [List.length_drop]
  cases h with
  | between => simp
  | @within c _ pos few =>
    have most := c.utf8Size_le_four
    rw [length_encoded_singleton]
    omega

theorem continues_drop (h : Cut cut n) : ∀ b ∈ (encoded cut).drop n, Continues b := by
  cases h with
  | between => simp
  | @within c n pos few =>
    intro b mem
    obtain ⟨n, rfl⟩ := Nat.exists_eq_add_of_lt pos
    rw [encoded_cons, encoded_nil, List.append_nil, Nat.zero_add, ← List.drop_tail] at mem
    exact (encodes c).continues b (List.mem_of_mem_drop mem)

/-- The reader has begun a character if and only if bytes of one were left over. -/
theorem finish_foldl_take (h : Cut cut n) (read : List Char) :
    (((encoded cut).take n).foldl Utf8Machine.step ⟨none, read⟩).finish
      = read.reverse ++ List.replicate cut.length replacement := by
  cases h with
  | between => simp [Utf8Machine.finish]
  | @within c n pos few =>
    obtain ⟨p, reads⟩ := Utf8Machine.foldl_take c read pos few
    rw [encoded_cons, encoded_nil, List.append_nil, reads]
    simp [Utf8Machine.finish]

end Cut

/-- **A cut text is read between replacements**: one for each byte that continues a
character begun before, and one for a character that is begun at the end. -/
theorem decodeLossy_cut {tail : List UInt8} (continues : ∀ b ∈ tail, Continues b)
    (text : List Char) {cut : List Char} {n : Nat} (cuts : Cut cut n) :
    decodeLossy (tail ++ encoded text ++ (encoded cut).take n)
      = String.ofList (List.replicate tail.length replacement ++ text
        ++ List.replicate cut.length replacement) := by
  unfold decodeLossy
  rw [List.foldl_append, List.foldl_append, Utf8Machine.foldl_continues _ continues,
    Utf8Machine.foldl_encoded, cuts.finish_foldl_take]
  simp

end DocSieve
