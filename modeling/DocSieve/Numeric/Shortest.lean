import DocSieve.Numeric.Binary

/-!
# The shortest decimal that reads back

The reals that round to a magnitude form an interval, from halfway to the
magnitude below to halfway to the magnitude above, ends included when the
significand is even. The shortest decimal of a magnitude is the point of the
coarsest decimal grid that lies in this interval; of two such points the one
nearer to the magnitude, and of two equally near ones the one that the rule
for ties names.

Key definitions: `Magnitude.readsBack`, `Magnitude.shortest`.
-/

namespace DocSieve

/-- A positive decimal `digits * 10^exponent`. -/
structure Decimal where
  digits : Nat
  exponent : Int
  deriving DecidableEq, Repr

/-- Which of two equally near decimals is taken. -/
inductive Tie
  | up
  | even
  deriving DecidableEq, Repr

namespace Decimal

/-- The order of `d` and the number `n * 2^k`. -/
def compareBinary (d : Decimal) (n : Nat) (k : Int) : Ordering :=
  compare (d.digits * Nat.pow 10 d.exponent.toNat * Nat.pow 2 (-k).toNat)
    (n * Nat.pow 2 k.toNat * Nat.pow 10 (-d.exponent).toNat)

/-- The same decimal without trailing zeros. -/
def stripZeros (d : Decimal) : Decimal :=
  if _h : d.digits ≠ 0 ∧ d.digits % 10 = 0 then stripZeros ⟨d.digits / 10, d.exponent + 1⟩
  else d
termination_by d.digits
decreasing_by omega

end Decimal

namespace Magnitude

variable (x : Magnitude)

/-- The decimal lies among the reals that round to the magnitude. -/
def readsBack (d : Decimal) : Bool :=
  let below := if x.narrowBelow then 4 * x.significand - 1 else 4 * x.significand - 2
  let lower := d.compareBinary below (x.exponent - 2)
  let upper := d.compareBinary (4 * x.significand + 2) (x.exponent - 2)
  let ends := x.significand % 2 == 0
  (lower == .gt || (ends && lower == .eq)) && (upper == .lt || (ends && upper == .eq))

/-- A lower bound of the decimal logarithm, exact or one too small. -/
def logGuess : Int := ((x.significand.log2 : Int) + x.exponent) * 30103 / 100000

/-- The least `k` with the magnitude below `10^k`. -/
def scale : Int :=
  let above (k : Int) : Bool := Decimal.compareBinary ⟨1, k⟩ x.significand x.exponent == .gt
  let guess := x.logGuess
  if above guess then guess else if above (guess + 1) then guess + 1 else guess + 2

/-- The greatest point of the grid `10^exponent` that is at most the magnitude. -/
def floorOn (exponent : Int) : Nat :=
  x.significand * Nat.pow 2 x.exponent.toNat * Nat.pow 10 (-exponent).toNat
    / (Nat.pow 2 (-x.exponent).toNat * Nat.pow 10 exponent.toNat)

/-- The point of the grid `10^exponent` that reads back, if one does. -/
def onGrid? (tie : Tie) (exponent : Int) : Option Decimal :=
  let floor := x.floorOn exponent
  let low : Decimal := ⟨floor, exponent⟩
  let high : Decimal := ⟨floor + 1, exponent⟩
  match x.readsBack low, x.readsBack high with
  | false, false => none
  | true, false => some low
  | false, true => some high
  | true, true =>
    match Decimal.compareBinary ⟨2 * floor + 1, exponent⟩ (2 * x.significand) x.exponent with
    | .lt => some high
    | .gt => some low
    | .eq =>
      match tie with
      | .up => some high
      | .even => some (if floor % 2 = 0 then low else high)

/-- The exact decimal of the magnitude. -/
def exact : Decimal :=
  ⟨x.significand * Nat.pow 2 x.exponent.toNat * Nat.pow 5 (-x.exponent).toNat, min x.exponent 0⟩

/-- The shortest decimal that reads back to a magnitude above zero. Seventeen
digits are enough for double precision. -/
def shortest (tie : Tie) : Decimal :=
  let k := x.scale
  let found := (List.range 17).findSome? fun n => x.onGrid? tie (k - (n + 1 : Nat))
  (found.getD x.exact).stripZeros

end Magnitude

end DocSieve
