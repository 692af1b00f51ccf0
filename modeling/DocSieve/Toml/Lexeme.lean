import DocSieve.Text.Hexadecimal
import DocSieve.Toml.Basic

/-!
# Lexemes of TOML

Blanks, comments, keys, strings, numbers and dates. Each reader takes a lexeme
off the front of a text and gives what it stands for with the text after it.

Key definitions: `TomlParser.key?`, `TomlParser.string?`, `TomlParser.number?`,
`TomlParser.datetime?`.
-/

namespace DocSieve

namespace TomlParser

/-- A reader of the front of a text. -/
abbrev Reader (α : Type) := List Char → Option (α × List Char)

def isBlank (c : Char) : Bool := c = ' ' || c = '\t'

/-- The text after the blanks. -/
def skip (text : List Char) : List Char := text.dropWhile isBlank

/-- A character that may stand in a comment. -/
def isVisible (c : Char) : Bool := c = '\t' || (' ' ≤ c && c ≠ '\x7f')

/-- The text after a line end at its front. -/
def lineBreak? : List Char → Option (List Char)
  | '\n' :: rest => some rest
  | '\r' :: '\n' :: rest => some rest
  | _ => none

/-- The text after a comment, if there is one. -/
def skipComment : List Char → List Char
  | '#' :: rest => rest.dropWhile isVisible
  | text => text

/-- The text after the end of a line: blanks, perhaps a comment, and a line
break or the end of all. -/
def lineEnd? (text : List Char) : Option (List Char) :=
  match skipComment (skip text) with
  | [] => some []
  | rest => lineBreak? rest

/-- The text after blanks, comments and line breaks; only the end of all or a
line break ends a comment. -/
def skipLines? (inComment : Bool) : List Char → Option (List Char)
  | [] => some []
  | '\n' :: rest => skipLines? false rest
  | '\r' :: '\n' :: rest => skipLines? false rest
  | c :: rest =>
    if inComment then if isVisible c then skipLines? true rest else none
    else if c = '#' then skipLines? true rest
    else if isBlank c then skipLines? false rest
    else some (c :: rest)

/-! ### Strings -/

/-- The character of an escape, from behind the backslash. -/
def escape? : Reader Char
  | 'b' :: rest => some ('\x08', rest)
  | 't' :: rest => some ('\t', rest)
  | 'n' :: rest => some ('\n', rest)
  | 'f' :: rest => some ('\x0c', rest)
  | 'r' :: rest => some ('\r', rest)
  | '"' :: rest => some ('"', rest)
  | '\\' :: rest => some ('\\', rest)
  | 'u' :: a :: b :: c :: d :: rest => do return (← hexCharacter? [a, b, c, d], rest)
  | 'U' :: a :: b :: c :: d :: e :: f :: g :: h :: rest => do
    return (← hexCharacter? [a, b, c, d, e, f, g, h], rest)
  | _ => none

/-- The length of the run of a quote at the front. -/
def quoteRun (quote : Char) (text : List Char) : Nat := (text.takeWhile (· == quote)).length

/-- The text after blanks and line breaks. -/
def skipSpace : List Char → List Char
  | '\n' :: rest => skipSpace rest
  | '\r' :: '\n' :: rest => skipSpace rest
  | c :: rest => if isBlank c then skipSpace rest else c :: rest
  | [] => []

/-- The text after an escaped line break: blanks, the break, then blanks and
breaks. -/
def continuation? (text : List Char) : Option (List Char) := (lineBreak? (skip text)).map skipSpace

/-- How a string is quoted. -/
structure Quoting where
  quote : Char
  /-- The backslash starts an escape. -/
  escapes : Bool
  /-- It is quoted by three quotes and may have line breaks. -/
  multiline : Bool

/-- The characters of a string up to the quotes that close it. Three or more
quotes close a string of several lines, up to two of them belonging to it. Each
round takes off a character. -/
def stringBody? (q : Quoting) : (rounds : Nat) → Reader (List Char)
  | 0, _ => none
  | rounds + 1, text =>
    let prepend (cs : List Char) (rest : List Char) : Option (List Char × List Char) := do
      let (body, rest) ← stringBody? q rounds rest
      return (cs ++ body, rest)
    match text with
    | [] => none
    | c :: rest =>
      if c = q.quote then
        if q.multiline then
          let run := quoteRun q.quote text
          if run ≥ 3 then
            let inside := min (run - 3) 2
            some (List.replicate inside q.quote, text.drop (inside + 3))
          else prepend (List.replicate run q.quote) (text.drop run)
        else some ([], rest)
      else if c = '\\' && q.escapes then
        match (if q.multiline then continuation? rest else none) with
        | some rest => prepend [] rest
        | none => do
          let (c, rest) ← escape? rest
          prepend [c] rest
      else if isVisible c then prepend [c] rest
      else if q.multiline then do prepend ['\n'] (← lineBreak? text)
      else none

/-- A string of several lines after its opening quotes; a line break there does
not belong to it. -/
def longString? (quote : Char) (escapes : Bool) (rounds : Nat) : Reader (List Char) := fun text =>
  stringBody? ⟨quote, escapes, true⟩ rounds ((lineBreak? text).getD text)

/-- A string on one line after its opening quote. -/
def shortString? (quote : Char) (escapes : Bool) (rounds : Nat) : Reader (List Char) :=
  stringBody? ⟨quote, escapes, false⟩ rounds

/-- A string of any kind. -/
def string? (rounds : Nat) : Reader (List Char)
  | '"' :: '"' :: '"' :: rest => longString? '"' true rounds rest
  | '\'' :: '\'' :: '\'' :: rest => longString? '\'' false rounds rest
  | '"' :: rest => shortString? '"' true rounds rest
  | '\'' :: rest => shortString? '\'' false rounds rest
  | _ => none

/-! ### Keys -/

/-- A character of a bare key. -/
def isBare (c : Char) : Bool := c.isAlphanum || c = '-' || c = '_'

/-- A key without dots: quoted on one line, or bare. -/
def simpleKey? (rounds : Nat) : Reader String
  | '"' :: rest =>
    (shortString? '"' true rounds rest).map fun (cs, rest) => (String.ofList cs, rest)
  | '\'' :: rest =>
    (shortString? '\'' false rounds rest).map fun (cs, rest) => (String.ofList cs, rest)
  | text =>
    let (name, rest) := text.span isBare
    if name.isEmpty then none else some (String.ofList name, rest)

/-- The parts of a dotted key, with blanks around them. Each round takes off a
part. -/
def keyParts? : (rounds : Nat) → Reader (List String)
  | 0, _ => none
  | rounds + 1, text => do
    let (name, rest) ← simpleKey? rounds (skip text)
    match skip rest with
    | '.' :: rest =>
      let (names, rest) ← keyParts? rounds rest
      return (name :: names, rest)
    | rest => return ([name], rest)

/-- The depth from which nesting is refused. -/
def depthLimit : Nat := 80

def key? (rounds : Nat) : Reader (List String) := fun text => do
  let (names, rest) ← keyParts? rounds text
  if names.length < depthLimit then some (names, rest) else none

/-! ### Numbers -/

/-- Digits with single underscores between them. -/
def digits? (isDigit : Char → Bool) : Reader (List Char)
  | [] => none
  | c :: '_' :: rest =>
    if isDigit c then
      match digits? isDigit rest with
      | some (more, rest) => some (c :: more, rest)
      | none => some ([c], '_' :: rest)
    else none
  | c :: rest =>
    if isDigit c then
      match digits? isDigit rest with
      | some (more, rest) => some (c :: more, rest)
      | none => some ([c], rest)
    else none

/-- A sign, if there is one: whether it is negative. -/
def sign : List Char → Bool × List Char
  | '-' :: rest => (true, rest)
  | '+' :: rest => (false, rest)
  | rest => (false, rest)

/-- The digits of a whole number: a zero alone, or digits that start with
another. -/
def wholeDigits? : Reader (List Char)
  | '0' :: rest => some (['0'], rest)
  | text => digits? Char.isDigit text

/-- The number that digits of a base make. -/
def valueIn (base : Nat) (digits : List Char) : Nat :=
  digits.foldl (fun n c => base * n + (hexValue? c).getD 0) 0

/-- An integer of 64 bits with a sign. -/
def inRange? (n : Int) : Option Int :=
  if -0x8000000000000000 ≤ n ∧ n ≤ 0x7fffffffffffffff then some n else none

/-- An integer: decimal with a sign, or in another base. -/
def integer? : Reader Int
  | '0' :: 'x' :: rest => based 16 (fun c => (hexValue? c).isSome) rest
  | '0' :: 'o' :: rest => based 8 (fun c => '0' ≤ c && c ≤ '7') rest
  | '0' :: 'b' :: rest => based 2 (fun c => c = '0' || c = '1') rest
  | text => do
    let (negative, rest) := sign text
    let (digits, rest) ← wholeDigits? rest
    let n : Int := valueIn 10 digits
    return (← inRange? (if negative then -n else n), rest)
where
  based (base : Nat) (isDigit : Char → Bool) (text : List Char) : Option (Int × List Char) := do
    let (digits, rest) ← digits? isDigit text
    return (← inRange? (valueIn base digits), rest)

/-- The digits of a fraction behind its point. -/
def fraction? : Reader (List Char)
  | '.' :: rest => digits? Char.isDigit rest
  | _ => none

/-- An exponent behind its mark. -/
def exponent? : Reader Int
  | 'e' :: rest | 'E' :: rest => do
    let (negative, rest) := sign rest
    let (digits, rest) ← digits? Char.isDigit rest
    let n : Int := valueIn 10 digits
    return (if negative then -n else n, rest)
  | _ => none

/-- The number nearest to a decimal; none if it were positive infinity. -/
def decimal? (negative : Bool) (digits : List Char) (exponent : Int) : Option Float :=
  let bits := BinaryFormat.double.roundDecimal (valueIn 10 digits) exponent
  if bits = BinaryFormat.double.infinity && !negative then none
  else some (double64 negative bits)

/-- A number with a fraction or an exponent, or one that is infinite or none. -/
def float? : Reader Float := fun text =>
  let (negative, rest) := sign text
  match rest with
  | 'i' :: 'n' :: 'f' :: rest => some (double64 negative BinaryFormat.double.infinity, rest)
  | 'n' :: 'a' :: 'n' :: rest => some (Float.ofBits 0x7ff8000000000000, rest)
  | _ => do
    let (whole, rest) ← wholeDigits? rest
    match fraction? rest with
    | some (fraction, rest) =>
      let (e, rest) := (exponent? rest).getD (0, rest)
      return (← decimal? negative (whole ++ fraction) (e - fraction.length), rest)
    | none =>
      let (e, rest) ← exponent? rest
      return (← decimal? negative whole e, rest)

/-! ### Dates and times -/

/-- A number of exactly `width` digits within bounds. -/
def fixed? (width least greatest : Nat) : Reader Nat := fun text =>
  let digits := text.take width
  let n := valueIn 10 digits
  if digits.length = width && digits.all Char.isDigit && least ≤ n && n ≤ greatest then
    some (n, text.drop width)
  else none

/-- The text after a character at the front. -/
def literal? (c : Char) : List Char → Option (List Char)
  | d :: rest => if c = d then some rest else none
  | [] => none

def monthLength (year month : Nat) : Nat :=
  if month = 2 then
    if year % 4 = 0 && (year % 100 ≠ 0 || year % 400 = 0) then 29 else 28
  else if [4, 6, 9, 11].contains month then 30 else 31

/-- The text after a date. -/
def date? (text : List Char) : Option (List Char) := do
  let (year, rest) ← fixed? 4 0 9999 text
  let (month, rest) ← fixed? 2 1 12 (← literal? '-' rest)
  let (_, rest) ← fixed? 2 1 (monthLength year month) (← literal? '-' rest)
  return rest

/-- The text after a time of day. -/
def time? (text : List Char) : Option (List Char) := do
  let (_, rest) ← fixed? 2 0 23 text
  let (_, rest) ← fixed? 2 0 59 (← literal? ':' rest)
  let (_, rest) ← fixed? 2 0 60 (← literal? ':' rest)
  match rest with
  | '.' :: d :: more => if d.isDigit then return (d :: more).dropWhile Char.isDigit else return rest
  | _ => return rest

/-- The text after the distance from universal time. -/
def zone? : List Char → Option (List Char)
  | 'Z' :: rest | 'z' :: rest => some rest
  | '+' :: rest | '-' :: rest => do
    let (_, rest) ← fixed? 2 0 23 rest
    let (_, rest) ← fixed? 2 0 59 (← literal? ':' rest)
    return rest
  | _ => none

/-- The text after a date, a time, or both. -/
def datetime? (text : List Char) : Option (List Char) :=
  match date? text with
  | some rest =>
    match rest with
    | c :: more =>
      if c = 'T' || c = 't' || c = ' ' then
        match time? more with
        | some rest => some ((zone? rest).getD rest)
        | none => some rest
      else some rest
    | [] => some []
  | none => time? text

end TomlParser

end DocSieve
