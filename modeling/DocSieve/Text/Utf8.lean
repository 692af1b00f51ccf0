/-!
# Text of arbitrary bytes

Bytes are read as UTF-8. Where they are not, each longest part that could
still have become a character, or else each single byte, is replaced by
U+FFFD. The reader is a machine that goes over the bytes once and holds the
character that it has begun.

Key definitions: `Utf8Pending`, `Utf8Machine.step`, `decodeLossy`.
-/

namespace DocSieve

/-- A character that was begun. -/
structure Utf8Pending where
  /-- The bits so far. -/
  bits : Nat
  /-- The number of bytes that are missing. -/
  missing : Nat
  /-- The least and the greatest byte that may come next. -/
  least : Nat
  greatest : Nat
  deriving DecidableEq, Repr

/-- The machine: what it has begun, and what it has read, the last first. -/
structure Utf8Machine where
  pending : Option Utf8Pending
  read : List Char

/-- The replacement of what is no character. -/
def replacement : Char := '\ufffd'

/-- What a byte begins: a character of its own, a longer one, or nothing. -/
inductive Utf8Start
  | single (c : Char)
  | longer (p : Utf8Pending)
  | invalid

/-- What a byte begins. The second byte is bounded further where a character
would be too long for its bits, a surrogate, or beyond the last one. -/
def utf8Start (b : UInt8) : Utf8Start :=
  let n := b.toNat
  if n < 0x80 then .single (Char.ofNat n)
  else if n < 0xc2 then .invalid
  else if n < 0xe0 then .longer ⟨n - 0xc0, 1, 0x80, 0xbf⟩
  else if n < 0xf0 then
    .longer ⟨n - 0xe0, 2, if n = 0xe0 then 0xa0 else 0x80, if n = 0xed then 0x9f else 0xbf⟩
  else if n < 0xf5 then
    .longer ⟨n - 0xf0, 3, if n = 0xf0 then 0x90 else 0x80, if n = 0xf4 then 0x8f else 0xbf⟩
  else .invalid

namespace Utf8Machine

/-- The machine after a byte where no character is begun. -/
def begin (read : List Char) (b : UInt8) : Utf8Machine :=
  match utf8Start b with
  | .single c => ⟨none, c :: read⟩
  | .longer p => ⟨some p, read⟩
  | .invalid => ⟨none, replacement :: read⟩

/-- The machine after a byte. -/
def step (m : Utf8Machine) (b : UInt8) : Utf8Machine :=
  match m.pending with
  | none => begin m.read b
  | some p =>
    if p.least ≤ b.toNat ∧ b.toNat ≤ p.greatest then
      let bits := 64 * p.bits + (b.toNat - 0x80)
      if p.missing = 1 then ⟨none, Char.ofNat bits :: m.read⟩
      else ⟨some ⟨bits, p.missing - 1, 0x80, 0xbf⟩, m.read⟩
    else begin (replacement :: m.read) b

/-- What the machine has read at the end of the bytes. -/
def finish (m : Utf8Machine) : List Char :=
  match m.pending with
  | none => m.read.reverse
  | some _ => (replacement :: m.read).reverse

end Utf8Machine

/-- The text of bytes, with what is no character replaced. -/
def decodeLossy (bytes : List UInt8) : String :=
  String.ofList (bytes.foldl Utf8Machine.step ⟨none, []⟩).finish

end DocSieve
