/-!
# Vectors of single-precision numbers

Arithmetic is IEEE 754 single precision, one operation at a time, left to
right. A sum starts at -0.0, the neutral element of that addition, so the sum
of no terms is -0.0.

Key definitions: `Vector32`, `Vector32.sum`, `Vector32.dot`, `Vector32.normalize`.
-/

namespace DocSieve

/-- A vector of single-precision numbers of any length. -/
abbrev Vector32 := Array Float32

namespace Vector32

def zeros (n : Nat) : Vector32 := Array.replicate n 0.0

/-- The sum, left to right, from -0.0. -/
def sum (v : Vector32) : Float32 := v.foldl (· + ·) (-0.0)

/-- The sum of the products, over the common length of the two vectors. -/
def dot (a b : Vector32) : Float32 := sum (a.zipWith (· * ·) b)

/-- The Euclidean length. -/
def norm (v : Vector32) : Float32 := (dot v v).sqrt

/-- The vector divided by its Euclidean length, unless that length is not
above zero. -/
def normalize (v : Vector32) : Vector32 :=
  let length := norm v
  if length > 0.0 then v.map (· / length) else v

end Vector32

end DocSieve
