/-!
# Decimals in writing

A decimal is written with digits, at least one, a point among or beside them
or none, and an exponent or none. A sign may stand in front, and the names of
infinity and of what is no number may stand for one.

Key definitions: `digits?`, `splitSign`, `decimal?`, `SignedDecimal`,
`signedDecimal?`.
-/

namespace DocSieve

/-- The number that decimal digits stand for; there has to be one at least. -/
def digits? (digits : List Char) : Option Nat :=
  if digits.isEmpty || digits.any (!·.isDigit) then none
  else some (digits.foldl (fun n c => 10 * n + (c.toNat - '0'.toNat)) 0)

/-- The sign of a text, whether it is negative, and what follows it. -/
def splitSign : List Char → Bool × List Char
  | '-' :: rest => (true, rest)
  | '+' :: rest => (false, rest)
  | rest => (false, rest)

/-- The exponent behind its mark, zero without one. -/
def exponent? : List Char → Option Int
  | [] => some 0
  | mark :: rest => do
    if mark ≠ 'e' && mark ≠ 'E' then none
    let (negative, digits) := splitSign rest
    let n ← digits? digits
    return if negative then -n else n

/-- A decimal without a sign, as a number and the power of ten that it is
multiplied with. -/
def decimal? (text : List Char) : Option (Nat × Int) := do
  let (whole, rest) := text.span Char.isDigit
  let (fraction, rest) := match rest with
    | '.' :: rest => rest.span Char.isDigit
    | rest => ([], rest)
  let digits ← digits? (whole ++ fraction)
  let exponent ← exponent? rest
  return (digits, exponent - fraction.length)

/-- What may be written behind a sign. -/
inductive SignedDecimal
  | finite (digits : Nat) (exponent : Int)
  | infinity
  | noNumber
  deriving DecidableEq, Repr

/-- A decimal behind a sign or without one, and whether it is negative. -/
def signedDecimal? (text : String) : Option (Bool × SignedDecimal) :=
  let (negative, rest) := splitSign text.toList
  let name := String.ofList (rest.map Char.toLower)
  if name = "inf" || name = "infinity" then some (negative, .infinity)
  else if name = "nan" then some (negative, .noNumber)
  else (decimal? rest).map fun (digits, exponent) => (negative, .finite digits exponent)

end DocSieve
