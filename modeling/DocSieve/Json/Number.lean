import DocSieve.Json.Basic
import DocSieve.Numeric.Style

/-!
# Numbers in JSON

A lexeme has a whole part, perhaps a fraction, perhaps an exponent. Without
the last two it stands for a 64-bit integer if it fits one. Otherwise it stands
for a double-precision number: the digits are gathered as long as they fit 64
bits, and the number they make is multiplied or divided by the power of ten
that is left. Two roundings can so move a long lexeme by a unit in the last
place; one beyond the range stands for no number.

Key definitions: `NumberParts.ofLexeme`, `JsonNumber.ofLexeme`,
`JsonValue.word?`, `JsonValue.single?`, `JsonValue.double?`.
-/

namespace DocSieve

/-- The parts of a lexeme. -/
structure NumberParts where
  negative : Bool
  whole : List Char
  fraction : Option (List Char)
  /-- The sign and the digits of the exponent. -/
  exponent : Option (Bool × List Char)

namespace NumberParts

/-- The exponent of a lexeme from its mark on. -/
def splitExponent : List Char → Option (Bool × List Char)
  | _ :: '-' :: digits => some (true, digits)
  | _ :: '+' :: digits => some (false, digits)
  | _ :: digits => some (false, digits)
  | [] => none

/-- The parts of a lexeme. -/
def ofLexeme (lexeme : List Char) : NumberParts :=
  let (negative, unsigned) := match lexeme with
    | '-' :: rest => (true, rest)
    | rest => (false, rest)
  let (whole, rest) := unsigned.span Char.isDigit
  match rest with
  | '.' :: rest =>
    let (fraction, rest) := rest.span Char.isDigit
    ⟨negative, whole, some fraction, splitExponent rest⟩
  | rest => ⟨negative, whole, none, splitExponent rest⟩

end NumberParts

/-- What a lexeme stands for. -/
inductive JsonNumber
  | word (n : UInt64)
  /-- A negative integer, by its distance from zero. -/
  | negative (n : Nat)
  | real (x : Float)
  /-- Beyond the range. -/
  | outOfRange

def digitValue (c : Char) : Nat := c.toNat - 48

def digitsValue (digits : List Char) : Nat := digits.foldl (fun n c => 10 * n + digitValue c) 0

/-- The digits gathered behind `n` as long as the number fits 64 bits, and how
many were. -/
def gather (n : Nat) : List Char → Nat × Nat
  | [] => (n, 0)
  | c :: rest =>
    let next := 10 * n + digitValue c
    if next < UInt64.size then
      let (last, count) := gather next rest
      (last, count + 1)
    else (n, 0)

/-- A power of ten as a double-precision number, the nearest one. -/
def powerOfTen (k : Nat) : Float := double64 false (BinaryFormat.double.roundDecimal 1 k)

/-- The greatest power of ten in double precision. -/
def greatestPower : Nat := 308

/-- A number times a power of ten, in steps of the greatest power; none beyond
the range. -/
def scaleByTen (x : Float) (exponent : Int) : Option Float :=
  if exponent.natAbs ≤ greatestPower then
    if exponent ≥ 0 then
      let y := x * powerOfTen exponent.natAbs
      if y.isInf then none else some y
    else some (x / powerOfTen exponent.natAbs)
  else if x == 0.0 then some x
  else if exponent ≥ 0 then none
  else scaleByTen (x / powerOfTen greatestPower) (exponent + greatestPower)
termination_by exponent.natAbs
decreasing_by simp only [greatestPower] at *; omega

namespace JsonNumber

/-- A number with a sign. -/
def signed (negative : Bool) : Option Float → JsonNumber
  | some x => .real (if negative then -x else x)
  | none => .outOfRange

/-- The greatest exponent that is read as a number. -/
def greatestExponent : Nat := 0x7fffffff

/-- The double-precision number of a lexeme with these parts. -/
def ofParts (parts : NumberParts) : JsonNumber :=
  let (n, count) := gather 0 parts.whole
  let (n, places) := gather n (parts.fraction.getD [])
  let shift : Int := (parts.whole.length - count : Nat) - places
  match parts.exponent with
  | none => signed parts.negative (scaleByTen (naturalToDouble n) shift)
  | some (below, digits) =>
    let e := digitsValue digits
    if e > greatestExponent then
      if n ≠ 0 && !below then .outOfRange else signed parts.negative (some 0.0)
    else
      signed parts.negative (scaleByTen (naturalToDouble n) (if below then shift - e else shift + e))

/-- What a lexeme stands for. -/
def ofLexeme (lexeme : List Char) : JsonNumber :=
  let parts := NumberParts.ofLexeme lexeme
  let n := digitsValue parts.whole
  if parts.fraction.isNone && parts.exponent.isNone && n < UInt64.size then
    if !parts.negative then .word (UInt64.ofNat n)
    else if n = 0 || n > 0x8000000000000000 then .real (-(naturalToDouble n))
    else .negative n
  else ofParts parts

/-- The nearest double-precision number. -/
def toDouble? : JsonNumber → Option Float
  | .word n => some (naturalToDouble n.toNat)
  | .negative n => some (-(naturalToDouble n))
  | .real x => some x
  | .outOfRange => none

/-- The single-precision number nearest to the integer, or to the
double-precision number. -/
def toSingle? : JsonNumber → Option Float32
  | .word n => some (naturalToSingle n.toNat)
  | .negative n => some (-(naturalToSingle n))
  | .real x => some (narrow x)
  | .outOfRange => none

end JsonNumber

/-- Single-precision numbers in JSON are written in full from a millionth to
below ten million million. -/
def jsonSingleStyle : NumberStyle where
  positional := some (-6, 12)
  pointZero := true
  plusSign := true
  tie := .even
  notANumber := "null"
  infinite := "null"
  signedInfinity := false

/-- Double-precision numbers in JSON are written in full from a hundred
thousandth to below ten thousand million million. -/
def jsonDoubleStyle : NumberStyle := { jsonSingleStyle with positional := some (-5, 15) }

namespace JsonValue

def word? : JsonValue → Option UInt64
  | .number lexeme =>
    match JsonNumber.ofLexeme lexeme with
    | .word n => some n
    | _ => none
  | _ => none

def double? : JsonValue → Option Float
  | .number lexeme => (JsonNumber.ofLexeme lexeme).toDouble?
  | _ => none

def single? : JsonValue → Option Float32
  | .number lexeme => (JsonNumber.ofLexeme lexeme).toSingle?
  | _ => none

/-- An integer as a value. -/
def ofWord (n : UInt64) : JsonValue := .number (Nat.repr n.toNat).toList

/-- A double-precision number as a value; what is no number is null. -/
def ofDouble (x : Float) : JsonValue :=
  if x.isFinite then .number (jsonDoubleStyle.double x).toList else .null

/-- A single-precision number as a value; what is no number is null. -/
def ofSingle (x : Float32) : JsonValue :=
  if x.isFinite then .number (jsonSingleStyle.single x).toList else .null

end JsonValue

end DocSieve
