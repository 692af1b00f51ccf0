import DocSieve.Text.Blank

/-!
# Moments and their text

A moment is a second of universal time with a fraction in nanoseconds; a leap
second is the second before it with a fraction of a whole second more. It is
read from date, time and distance from universal time with some freedom about
blanks, and written in universal time with as few groups of three fraction
digits as it needs.

Key definitions: `Timestamp`, `Timestamp.ofText?`, `Timestamp.render`.
-/

namespace DocSieve

/-- A moment of universal time. -/
structure Timestamp where
  /-- Seconds since the first of March of the year zero. -/
  seconds : Int
  /-- Up to a second, or up to two in a leap second. -/
  nanoseconds : Nat
  deriving DecidableEq, Repr

/-- A date of the proleptic Gregorian calendar. -/
structure CivilDate where
  year : Int
  month : Nat
  day : Nat
  deriving DecidableEq, Repr

namespace CivilDate

def isLeap (year : Int) : Bool := year % 4 == 0 && (year % 100 != 0 || year % 400 == 0)

def monthLength (year : Int) (month : Nat) : Nat :=
  if month = 2 then (if isLeap year then 29 else 28)
  else if month = 4 ∨ month = 6 ∨ month = 9 ∨ month = 11 then 30 else 31

/-- The year is one of those that the calendar covers. -/
def inRange (d : CivilDate) : Bool := -262143 ≤ d.year && d.year ≤ 262142

/-- The date exists. -/
def isValid (d : CivilDate) : Bool :=
  d.inRange && 1 ≤ d.month && d.month ≤ 12 && 1 ≤ d.day && d.day ≤ monthLength d.year d.month

/-- Days since the first of March of the year zero. Years that begin in March
have their leap day at the end. -/
def dayNumber (d : CivilDate) : Int :=
  let year := if d.month ≤ 2 then d.year - 1 else d.year
  let month := (d.month + 9) % 12
  365 * year + year / 4 - year / 100 + year / 400 + (153 * month + 2) / 5 + (d.day - 1)

/-- The date of a day number. -/
def ofDayNumber (n : Int) : CivilDate :=
  let era := n / 146097
  let dayOfEra := (n % 146097).toNat
  let yearOfEra := (dayOfEra - dayOfEra / 1460 + dayOfEra / 36524 - dayOfEra / 146096) / 365
  let dayOfYear := dayOfEra - (365 * yearOfEra + yearOfEra / 4 - yearOfEra / 100)
  let march := (5 * dayOfYear + 2) / 153
  let month := if march < 10 then march + 3 else march - 9
  let year := 400 * era + yearOfEra
  ⟨if month ≤ 2 then year + 1 else year, month, dayOfYear - (153 * march + 2) / 5 + 1⟩

end CivilDate

namespace Timestamp

/-- The text from the first character on that is no blank. -/
def skip (text : List Char) : List Char := text.dropWhile isBlank

/-- The value of digits. -/
def valueOf (digits : List Char) : Nat := digits.foldl (fun n c => 10 * n + (c.toNat - 48)) 0

/-- A number of one to `width` digits after blanks, and the text after it. -/
def number? (width : Nat) (text : List Char) : Option (Nat × List Char) :=
  let text := skip text
  let digits := (text.take width).takeWhile Char.isDigit
  if digits.isEmpty then none else some (valueOf digits, text.drop digits.length)

/-- A year: four digits at most, or a sign and any number of digits. -/
def year? (text : List Char) : Option (Int × List Char) := do
  let text := skip text
  let signed (rest : List Char) : Option (Nat × List Char) :=
    if (rest.head?.map Char.isDigit).getD false then number? rest.length rest else none
  match text with
  | '-' :: rest =>
    let (n, rest) ← signed rest
    return (-(n : Int), rest)
  | '+' :: rest =>
    let (n, rest) ← signed rest
    return ((n : Int), rest)
  | text =>
    let (n, rest) ← number? 4 text
    return ((n : Int), rest)

/-- A character after blanks, and the text after it. -/
def literal? (c : Char) (text : List Char) : Option (List Char) :=
  match skip text with
  | d :: rest => if c = d then some rest else none
  | [] => none

/-- A fraction of a second in nanoseconds, if there is one; digits after the
ninth do not count. -/
def fraction? : List Char → Option (Nat × List Char)
  | '.' :: rest =>
    let (digits, rest) := rest.span Char.isDigit
    if digits.isEmpty then none
    else
      let counted := digits.take 9
      some (valueOf counted * Nat.pow 10 (9 - counted.length), rest)
  | rest => some (0, rest)

/-- The distance from universal time in seconds: a letter, a name, or a sign
with hours and minutes. -/
def offset? (text : List Char) : Option (Int × List Char) :=
  let hoursMinutes (sign : Int) (rest : List Char) : Option (Int × List Char) :=
    match rest with
    | h1 :: h2 :: rest =>
      match rest.dropWhile (fun c => c = ':' || isBlank c) with
      | m1 :: m2 :: rest =>
        if h1.isDigit && h2.isDigit && m1.isDigit && m2.isDigit && m1 < '6' then
          let seconds := valueOf [h1, h2] * 3600 + valueOf [m1, m2] * 60
          if seconds < 86400 then some (sign * (seconds : Int), rest) else none
        else none
      | _ => none
    | _ => none
  match text with
  | 'Z' :: rest | 'z' :: rest => some (0, rest)
  | '+' :: rest => hoursMinutes 1 rest
  | '-' :: rest | '−' :: rest => hoursMinutes (-1) rest
  | u :: t :: c :: rest =>
    if u.toLower = 'u' && t.toLower = 't' && c.toLower = 'c' then some (0, rest) else none
  | _ => none

/-- The date in universal time. -/
def date (t : Timestamp) : CivilDate := CivilDate.ofDayNumber (t.seconds / 86400)

/-- The moment of a text. Its date has to exist where the text says and in
universal time. -/
def ofText? (text : String) : Option Timestamp := do
  let (year, rest) ← year? text.toList
  let (month, rest) ← number? 2 (← literal? '-' rest)
  let (day, rest) ← number? 2 (← literal? '-' rest)
  let rest ← match rest with
    | 'T' :: rest | 't' :: rest | ' ' :: rest => some rest
    | _ => none
  let (hour, rest) ← number? 2 rest
  let (minute, rest) ← number? 2 (← literal? ':' rest)
  let (second, rest) ← number? 2 (← literal? ':' rest)
  let (nanoseconds, rest) ← fraction? rest
  let (offset, rest) ← offset? (skip rest)
  let date : CivilDate := ⟨year, month, day⟩
  if !(skip rest).isEmpty || !date.isValid || hour ≥ 24 || minute ≥ 60 || second > 60 then none
  let (second, nanoseconds) :=
    if second = 60 then (59, nanoseconds + 1000000000) else (second, nanoseconds)
  let moment : Timestamp :=
    ⟨date.dayNumber * 86400 + hour * 3600 + minute * 60 + second - offset, nanoseconds⟩
  if moment.date.inRange then some moment else none

/-- The digits of a number, filled up with zeros on the left. -/
def padded (width n : Nat) : List Char :=
  let digits := (Nat.repr n).toList
  List.replicate (width - digits.length) '0' ++ digits

/-- A year of four digits, or one with a sign and at least four. -/
def renderYear (year : Int) : List Char :=
  if 0 ≤ year ∧ year ≤ 9999 then padded 4 year.toNat
  else (if year < 0 then '-' else '+') :: padded 4 year.natAbs

/-- A fraction in no, three, six or nine digits. -/
def renderFraction (nanoseconds : Nat) : List Char :=
  if nanoseconds = 0 then []
  else if nanoseconds % 1000000 = 0 then '.' :: padded 3 (nanoseconds / 1000000)
  else if nanoseconds % 1000 = 0 then '.' :: padded 6 (nanoseconds / 1000)
  else '.' :: padded 9 nanoseconds

def render (t : Timestamp) : String :=
  let date := t.date
  let second := (t.seconds % 86400).toNat
  let (extra, nanoseconds) :=
    if t.nanoseconds ≥ 1000000000 then (1, t.nanoseconds - 1000000000) else (0, t.nanoseconds)
  String.ofList (renderYear date.year ++ '-' :: padded 2 date.month ++ '-' :: padded 2 date.day
    ++ 'T' :: padded 2 (second / 3600) ++ ':' :: padded 2 (second / 60 % 60)
    ++ ':' :: padded 2 (second % 60 + extra) ++ renderFraction nanoseconds ++ ['Z'])

end Timestamp

end DocSieve
