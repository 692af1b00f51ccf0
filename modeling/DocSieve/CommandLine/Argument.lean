import DocSieve.Numeric.Binary
import DocSieve.Numeric.Decimal

/-!
# Arguments as numbers

Numbers on the command line: whole numbers with a sign or without, and decimals
with a fraction, an exponent, or neither, or the names of infinity and of what
is no number. Nothing else may stand in the argument.

Key definitions: `wholeArgument?`, `integerArgument?`, `decimalArgument?`.
-/

namespace DocSieve

/-- A whole number up to a greatest one, which may have a plus sign. -/
def wholeArgument? (greatest : Nat) (text : String) : Option Nat := do
  let (negative, digits) := splitSign text.toList
  if negative then none
  let n ← digits? digits
  if n ≤ greatest then some n else none

/-- A whole number up to a greatest one, where zero may have either sign. -/
def integerArgument? (greatest : Nat) (text : String) : Option Nat := do
  let (negative, digits) := splitSign text.toList
  let n ← digits? digits
  if n ≤ greatest && !(negative && n ≠ 0) then some n else none

/-- A single-precision number: the one nearest to a decimal, infinity, or no
number. -/
def decimalArgument? (text : String) : Option Float32 := do
  let (negative, value) ← signedDecimal? text
  let bits := match value with
    | .finite digits exponent => BinaryFormat.single.roundDecimal digits exponent
    | .infinity => BinaryFormat.single.infinity
    | .noNumber => 0x7fc00000
  return single32 negative bits

end DocSieve
