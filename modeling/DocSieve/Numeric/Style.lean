import DocSieve.Numeric.Shortest

/-!
# Styles of number text

A number is written by its shortest decimal. What is left to decide is the
layout, one record: which exponents are written in full, whether a whole
number keeps `.0`, the sign of a positive exponent, and the texts of the
values that are no numbers.

Key definitions: `NumberStyle`, `NumberStyle.single`, `NumberStyle.double`,
`diagnosticStyle`, `messageStyle`.
-/

namespace DocSieve

/-- How a number is laid out. -/
structure NumberStyle where
  /-- The least and the greatest exponent of the leading digit that are written
  in full; without them all are. -/
  positional : Option (Int × Int)
  /-- A whole number written in full ends in `.0`. -/
  pointZero : Bool
  /-- A positive exponent carries a plus sign. -/
  plusSign : Bool
  /-- Which of two equally near shortest decimals is written. -/
  tie : Tie
  notANumber : String
  infinite : String
  /-- The sign is written before an infinite value. -/
  signedInfinity : Bool
  deriving DecidableEq, Repr

namespace NumberStyle

variable (style : NumberStyle)

/-- The digits without an exponent, the first digit having the weight
`10^leading`. -/
def fullForm (digits : List Char) (leading : Int) : List Char :=
  if leading < 0 then '0' :: '.' :: (List.replicate (-leading - 1).toNat '0' ++ digits)
  else
    let whole := leading.toNat + 1
    if whole < digits.length then digits.take whole ++ '.' :: digits.drop whole
    else
      digits ++ List.replicate (whole - digits.length) '0'
        ++ (if style.pointZero then ['.', '0'] else [])

/-- The digits with one before the point, and an exponent. -/
def exponentForm (digits : List Char) (leading : Int) : List Char :=
  let mantissa :=
    match digits with
    | first :: second :: rest => first :: '.' :: second :: rest
    | short => short
  let mark := if leading < 0 then ['e', '-'] else if style.plusSign then ['e', '+'] else ['e']
  mantissa ++ mark ++ (Nat.repr leading.natAbs).toList

/-- The text of a decimal above zero. -/
def decimal (d : Decimal) : List Char :=
  let digits := (Nat.repr d.digits).toList
  let leading : Int := d.exponent + digits.length - 1
  match style.positional with
  | none => style.fullForm digits leading
  | some (least, greatest) =>
    if least ≤ leading ∧ leading ≤ greatest then style.fullForm digits leading
    else style.exponentForm digits leading

/-- The text of the number with these bits in a format. -/
def text (format : BinaryFormat) (bits : Nat) : String :=
  let negative := bits ≥ format.signBit
  let magnitude := bits % format.signBit
  let sign := if negative then ['-'] else []
  if magnitude > format.infinity then style.notANumber
  else if magnitude = format.infinity then
    String.ofList ((if style.signedInfinity then sign else []) ++ style.infinite.toList)
  else if magnitude = 0 then String.ofList (sign ++ style.fullForm ['0'] 0)
  else String.ofList (sign ++ style.decimal ((format.decode magnitude).shortest style.tie))

def single (x : Float32) : String := style.text .single x.toBits.toNat

def double (x : Float) : String := style.text .double x.toBits.toNat

end NumberStyle

/-- The style of diagnostics: full from a ten-thousandth to below ten thousand
million million, and always with a point or an exponent. -/
def diagnosticStyle : NumberStyle where
  positional := some (-4, 15)
  pointZero := true
  plusSign := false
  tie := .up
  notANumber := "NaN"
  infinite := "inf"
  signedInfinity := true

/-- The style of messages: in full and without a needless point. -/
def messageStyle : NumberStyle where
  positional := none
  pointZero := false
  plusSign := false
  tie := .up
  notANumber := "NaN"
  infinite := "inf"
  signedInfinity := true

end DocSieve
