/-!
# A 64-bit hash of byte strings

FNV-1a: from a fixed offset, each byte is mixed into the low bits by exclusive
or and spread by a multiplication modulo 2^64. `fnv1aFrom` is the same loop
from any state, so that the hash of `p ++ s` is the hash of `s` from the hash
of `p` (`fnv1aFrom_append`).

Key definitions: `fnv1a`, `fnv1aFrom`, `fnvStep`.
-/

namespace DocSieve

/-- The state before the first byte. -/
def fnvOffset : UInt64 := 0xcbf29ce484222325

/-- The multiplier of each step, an odd number. -/
def fnvPrime : UInt64 := 0x100000001b3

/-- One byte mixed into the state. -/
def fnvStep (state : UInt64) (byte : UInt8) : UInt64 :=
  (state ^^^ byte.toUInt64) * fnvPrime

/-- The state after the bytes, from any state. -/
def fnv1aFrom (state : UInt64) (bytes : List UInt8) : UInt64 :=
  bytes.foldl fnvStep state

/-- The 64-bit FNV-1a hash of a byte string. -/
def fnv1a (bytes : List UInt8) : UInt64 :=
  fnv1aFrom fnvOffset bytes

theorem fnv1aFrom_append (state : UInt64) (p s : List UInt8) :
    fnv1aFrom state (p ++ s) = fnv1aFrom (fnv1aFrom state p) s :=
  List.foldl_append

/-- The hash of a text is the hash of its UTF-8 encoding. -/
def hashText (text : String) : UInt64 :=
  fnv1a text.toUTF8.toList

end DocSieve
