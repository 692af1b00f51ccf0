/-!
# Formats of structured values

Records are read from values of several formats by the same rules. A format
says how a value of it shows named fields, and when it stands for a number, a
text or nothing. A field that is not there may have a default.

Key definitions: `Format`, `Format.orDefault`, `Format.optional`.
-/

namespace DocSieve

/-- How values of a format are read. -/
structure Format (V : Type) where
  /-- The values of the named fields, each if it is there; none if the value
  has no fields, or not in an allowed way. -/
  fields : List String → V → Option (List (Option V))
  word : V → Option UInt64
  single : V → Option Float32
  text : V → Option String
  /-- The value stands for nothing. -/
  isNull : V → Bool

namespace Format

variable {V α : Type}

/-- A field that must be there. -/
def required (read : V → Option α) (field : Option V) : Option α := field.bind read

/-- A field that has a default. -/
def orDefault (read : V → Option α) (absent : α) : Option V → Option α
  | some v => read v
  | none => some absent

variable (f : Format V)

/-- A field that may be missing or stand for nothing. -/
def optional (read : V → Option α) : Option V → Option (Option α)
  | some v => if f.isNull v then some none else (read v).map some
  | none => some none

/-- A number of 32 bits. -/
def halfWord (v : V) : Option UInt32 := do
  let n ← f.word v
  if n.toNat < UInt32.size then some n.toUInt32 else none

end Format

end DocSieve
