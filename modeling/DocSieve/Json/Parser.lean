import DocSieve.Json.Basic
import DocSieve.Text.Hexadecimal

/-!
# Reading JSON

The grammar of JSON, nested to any depth. Blanks are space, tab, line feed and
carriage return. A control character must not stand in a string. An escape
names a unit of sixteen bits; two units may make one character, and a unit that
makes none leaves the string broken.

Key definitions: `JsonValue.parse?`.
-/

namespace DocSieve

namespace JsonParser

/-- A blank between lexemes. -/
def isBlank (c : Char) : Bool := c = ' ' || c = '\t' || c = '\n' || c = '\r'

/-- The text from the first lexeme on. -/
def skip (text : List Char) : List Char := text.dropWhile isBlank

/-- The unit that four hexadecimal digits name. -/
def unit? (a b c d : Char) : Option Nat := hexNumber? [a, b, c, d]

/-- The character that a letter names behind a backslash. -/
def escaped? : Char → Option Char
  | '"' => some '"'
  | '\\' => some '\\'
  | '/' => some '/'
  | 'b' => some '\x08'
  | 'f' => some '\x0c'
  | 'n' => some '\n'
  | 'r' => some '\r'
  | 't' => some '\t'
  | _ => none

/-- The numbers of the characters and units up to the closing quote, and the
text after it. -/
def units? : List Char → Option (List Nat × List Char)
  | [] => none
  | '"' :: rest => some ([], rest)
  | '\\' :: 'u' :: a :: b :: c :: d :: rest => do
    let unit ← unit? a b c d
    let (units, rest) ← units? rest
    return (unit :: units, rest)
  | '\\' :: letter :: rest => do
    let c ← escaped? letter
    let (units, rest) ← units? rest
    return (c.toNat :: units, rest)
  | c :: rest => do
    if c.toNat < 0x20 || c = '\\' then none
    let (units, rest) ← units? rest
    return (c.toNat :: units, rest)

def isHighHalf (n : Nat) : Bool := 0xd800 ≤ n && n < 0xdc00

def isLowHalf (n : Nat) : Bool := 0xdc00 ≤ n && n < 0xe000

/-- The characters that the numbers make, if no half is left alone. -/
def joinUnits? : List Nat → Option (List Char)
  | [] => some []
  | n :: rest =>
    if isHighHalf n then
      match rest with
      | low :: rest =>
        if isLowHalf low then
          (joinUnits? rest).map (Char.ofNat (0x10000 + 0x400 * (n - 0xd800) + (low - 0xdc00)) :: ·)
        else none
      | [] => none
    else if isLowHalf n then none
    else (joinUnits? rest).map (Char.ofNat n :: ·)

/-- A string after its opening quote, and the text after it. -/
def string? (text : List Char) : Option (JsonText × List Char) := do
  let (units, rest) ← units? text
  return (match joinUnits? units with
    | some chars => .whole (String.ofList chars)
    | none => .broken, rest)

/-- At least one digit at the front, and the text after the digits. -/
def digits? (text : List Char) : Option (List Char × List Char) :=
  let (digits, rest) := text.span Char.isDigit
  if digits.isEmpty then none else some (digits, rest)

/-- The digits before the point: a zero alone, or digits that start with
another. -/
def whole? : List Char → Option (List Char × List Char)
  | '0' :: rest => some (['0'], rest)
  | text => digits? text

/-- A fraction, if there is one. -/
def fraction? : List Char → Option (List Char × List Char)
  | '.' :: rest => do
    let (digits, rest) ← digits? rest
    return ('.' :: digits, rest)
  | rest => some ([], rest)

/-- The sign of an exponent, if there is one. -/
def exponentSign : List Char → List Char × List Char
  | '+' :: rest => (['+'], rest)
  | '-' :: rest => (['-'], rest)
  | rest => ([], rest)

/-- An exponent, if there is one. -/
def exponent? : List Char → Option (List Char × List Char)
  | c :: rest =>
    if c = 'e' || c = 'E' then do
      let (sign, rest) := exponentSign rest
      let (digits, rest) ← digits? rest
      return (c :: sign ++ digits, rest)
    else some ([], c :: rest)
  | [] => some ([], [])

/-- The lexeme of a number at the front, and the text after it. -/
def number? (text : List Char) : Option (List Char × List Char) := do
  let (sign, rest) := match text with
    | '-' :: rest => (['-'], rest)
    | rest => ([], rest)
  let (whole, rest) ← whole? rest
  let (fraction, rest) ← fraction? rest
  let (exponent, rest) ← exponent? rest
  return (sign ++ whole ++ fraction ++ exponent, rest)

mutual

/-- A value at the front, and the text after it. -/
def value? : Nat → List Char → Option (JsonValue × List Char)
  | 0, _ => none
  | fuel + 1, text =>
    match skip text with
    | 'n' :: 'u' :: 'l' :: 'l' :: rest => some (.null, rest)
    | 't' :: 'r' :: 'u' :: 'e' :: rest => some (.bool true, rest)
    | 'f' :: 'a' :: 'l' :: 's' :: 'e' :: rest => some (.bool false, rest)
    | '"' :: rest => do
      let (text, rest) ← string? rest
      return (.string text, rest)
    | '[' :: rest =>
      match skip rest with
      | ']' :: rest => some (.array [], rest)
      | rest => do
        let (items, rest) ← items? fuel rest
        return (.array items, rest)
    | '\x7b' :: rest =>
      match skip rest with
      | '\x7d' :: rest => some (.object [], rest)
      | rest => do
        let (members, rest) ← members? fuel rest
        return (.object members, rest)
    | rest => do
      let (lexeme, rest) ← number? rest
      return (.number lexeme, rest)

/-- The items of an array up to its closing bracket, at least one. -/
def items? : Nat → List Char → Option (List JsonValue × List Char)
  | 0, _ => none
  | fuel + 1, text => do
    let (item, rest) ← value? fuel text
    match skip rest with
    | ']' :: rest => return ([item], rest)
    | ',' :: rest =>
      let (items, rest) ← items? fuel rest
      return (item :: items, rest)
    | _ => none

/-- The members of an object up to its closing brace, at least one. -/
def members? : Nat → List Char → Option (List (JsonText × JsonValue) × List Char)
  | 0, _ => none
  | fuel + 1, text => do
    match skip text with
    | '"' :: rest =>
      let (name, rest) ← string? rest
      match skip rest with
      | ':' :: rest =>
        let (value, rest) ← value? fuel rest
        match skip rest with
        | '\x7d' :: rest => return ([(name, value)], rest)
        | ',' :: rest =>
          let (members, rest) ← members? fuel rest
          return ((name, value) :: members, rest)
        | _ => none
      | _ => none
    | _ => none

end

end JsonParser

namespace JsonValue

/-- The value of a text that holds nothing else. Nested calls take at least one
character for every two, so the length bounds their number. -/
def parse? (text : String) : Option JsonValue :=
  match JsonParser.value? (2 * text.length + 2) text.toList with
  | some (value, rest) => if (JsonParser.skip rest).isEmpty then some value else none
  | none => none

end JsonValue

end DocSieve
