/-!
# Binary floating-point formats

A format is given by two widths, those of the fraction and of the exponent.
Its finite magnitudes are the numbers `m * 2^q` that its bits stand for, in
the order of the bits, so that rounding to the nearest magnitude is arithmetic
on naturals. The bits that follow the largest finite magnitude are those of
infinity.

Key definitions: `BinaryFormat`, `BinaryFormat.decode`, `BinaryFormat.roundRatio`,
`narrow`.
-/

namespace DocSieve

/-- A binary interchange format, by the widths of its two fields. -/
structure BinaryFormat where
  fractionBits : Nat
  exponentBits : Nat
  deriving DecidableEq, Repr

/-- The quotient `num / den` rounded to the nearest natural, an exact half to
the even neighbour. -/
def roundHalfEven (num den : Nat) : Nat :=
  let floor := num / den
  let rest := num % den
  if 2 * rest < den then floor
  else if 2 * rest > den then floor + 1
  else floor + floor % 2

/-- A finite magnitude `significand * 2^exponent`. -/
structure Magnitude where
  significand : Nat
  exponent : Int
  /-- The magnitude below is half as far away as the magnitude above. -/
  narrowBelow : Bool
  deriving DecidableEq, Repr

namespace BinaryFormat

def single : BinaryFormat := ⟨23, 8⟩

def double : BinaryFormat := ⟨52, 11⟩

variable (f : BinaryFormat)

/-- The exponent of the smallest magnitudes. -/
def leastExponent : Int := 2 - Nat.pow 2 (f.exponentBits - 1) - f.fractionBits

/-- The bits of positive infinity. The finite magnitudes are the bits below. -/
def infinity : Nat := (Nat.pow 2 f.exponentBits - 1) * Nat.pow 2 f.fractionBits

/-- The bit of the sign. -/
def signBit : Nat := Nat.pow 2 (f.fractionBits + f.exponentBits)

/-- The magnitude that bits below those of infinity stand for. -/
def decode (bits : Nat) : Magnitude :=
  let fraction := bits % Nat.pow 2 f.fractionBits
  let field := bits / Nat.pow 2 f.fractionBits
  if field = 0 then ⟨fraction, f.leastExponent, false⟩
  else ⟨Nat.pow 2 f.fractionBits + fraction, f.leastExponent + (field - 1 : Nat), fraction == 0 && field > 1⟩

/-- The greatest `k` with `2^k ≤ num / den`, for two positive numbers. -/
def floorLog2 (num den : Nat) : Int :=
  let guess : Int := (num.log2 : Int) - den.log2
  if num * Nat.pow 2 (-guess).toNat < den * Nat.pow 2 guess.toNat then guess - 1 else guess

/-- The bits of the magnitude nearest to `num / den`, an exact half to the even
neighbour; infinity where the nearest magnitude would be beyond the largest. -/
def roundRatio (num den : Nat) : Nat :=
  if num = 0 then 0
  else
    let q : Int := max (floorLog2 num den - f.fractionBits) f.leastExponent
    let m := roundHalfEven (num * Nat.pow 2 (-q).toNat) (den * Nat.pow 2 q.toNat)
    min ((q - f.leastExponent).toNat * Nat.pow 2 f.fractionBits + m) f.infinity

/-- The bits of the magnitude nearest to `digits * 10^exponent`. Exponents far
outside the range of the format are answered without the power of ten. -/
def roundDecimal (digits : Nat) (exponent : Int) : Nat :=
  if digits = 0 then 0
  else if exponent ≥ 400 then f.infinity
  else if exponent + (digits.log2 + 1) ≤ -400 then 0
  else f.roundRatio (digits * Nat.pow 10 exponent.toNat) (Nat.pow 10 (-exponent).toNat)

/-- The bits of the magnitude nearest to that of another format's bits, where
infinity and the bits beyond it go to infinity. -/
def roundFrom (source : BinaryFormat) (bits : Nat) : Nat :=
  if bits ≥ source.infinity then f.infinity
  else
    let x := source.decode bits
    f.roundRatio (x.significand * Nat.pow 2 x.exponent.toNat) (Nat.pow 2 (-x.exponent).toNat)

end BinaryFormat

open BinaryFormat

/-- A single-precision number from its sign and the bits of its magnitude. -/
def single32 (negative : Bool) (magnitude : Nat) : Float32 :=
  Float32.ofBits (UInt32.ofNat (magnitude + if negative then single.signBit else 0))

/-- A double-precision number from its sign and the bits of its magnitude. -/
def double64 (negative : Bool) (magnitude : Nat) : Float :=
  Float.ofBits (UInt64.ofNat (magnitude + if negative then double.signBit else 0))

/-- The single-precision number nearest to a double-precision one. -/
def narrow (x : Float) : Float32 :=
  let bits := x.toBits.toNat
  if x.isNaN then Float32.ofBits 0x7fc00000
  else single32 (bits ≥ double.signBit) (single.roundFrom double (bits % double.signBit))

/-- The single-precision number nearest to a natural number. -/
def naturalToSingle (n : Nat) : Float32 := single32 false (single.roundRatio n 1)

/-- The double-precision number nearest to a natural number. -/
def naturalToDouble (n : Nat) : Float := double64 false (double.roundRatio n 1)

end DocSieve
