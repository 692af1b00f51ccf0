import DocSieve.Log.Event
import DocSieve.Log.Pattern
import DocSieve.Numeric.Decimal

/-!
# Log filters

A filter is a list of directives. A directive sets a level for the events of
one part of the program, and of those whose name goes on from there; without a
part it is for all. It can also ask for a named value. Of the directives that
are for an event the most specific one decides: the one with the longest name
of a part, then one that asks for a value. A directive that asks for a span,
or for what a named value is, is for no event, since no event is in a span.

A filter is written with commas between the directives, each one being
`level`, `part`, or `part[span{name=value}]=level` with all but one piece left
out. What a value is asked to be is a number or a pattern. A directive that is
written wrong makes the whole filter unreadable; a filter without directives
tells nothing.

A directive is looked at without the blanks around it, but its pieces are cut
out of it as it stands, at the same numbers of bytes. Where blanks stand in
front, a cut can fall inside a character.

Key definitions: `Directive`, `LogFilter`, `FilterFault`, `LogFilter.parse`,
`LogFilter.allows`.
-/

namespace DocSieve

/-- A level for some events. -/
structure Directive where
  target : Option String
  /-- The span that an event has to be in. -/
  span : Option String
  /-- The named value that an event has to carry, and what it has to be. -/
  value : Option (String × Option String)
  level : Level
  deriving DecidableEq, Repr

/-- Directives, the later ones replacing earlier ones for the same events. -/
abbrev LogFilter := List Directive

/-- Why a filter cannot be used. -/
inductive FilterFault
  /-- A directive is written wrong. -/
  | unreadable
  /-- A cut falls inside a character. -/
  | brokenCharacter
  deriving DecidableEq, Repr

namespace Level

/-- The number that digits stand for, with a plus sign or without. -/
def number? : List Char → Option Nat
  | '+' :: rest => digits? rest
  | rest => digits? rest

/-- The level that a text names, by a number or in letters of either case. -/
def parse? (text : List Char) : Option Level :=
  match number? text with
  | some n => ofRank? n
  | none => all.find? fun level => level.name.toList = text.map Char.toLower

end Level

namespace Directive

/-- A directive can start with the character. -/
def canStart (c : Char) : Bool :=
  c = '-' || c = ':' || c = '_' || isAlphabetic c || isNumeric c

/-- The directive that tells everything of a part. -/
def everything (target : Option String) : Directive := ⟨target, none, none, .trace⟩

/-- A text split behind some bytes, unless they end inside a character. -/
def splitBytes? : (bytes : Nat) → List Char → Option (List Char × List Char)
  | 0, text => some ([], text)
  | _ + 1, [] => none
  | bytes + 1, c :: rest =>
    if c.utf8Size ≤ bytes + 1 then
      (splitBytes? (bytes + 1 - c.utf8Size) rest).map fun (head, tail) => (c :: head, tail)
    else none

/-- The characters behind some bytes. -/
def cutFrom (text : List Char) (start : Nat) : Except FilterFault (List Char) :=
  match splitBytes? start text with
  | some (_, tail) => pure tail
  | none => throw .brokenCharacter

/-- The characters from one number of bytes to another. -/
def cut (text : List Char) (start stop : Nat) : Except FilterFault (List Char) := do
  match splitBytes? (stop - start) (← cutFrom text start) with
  | some (piece, _) => pure piece
  | none => throw .brokenCharacter

/-- Characters as they are looked at, each with the number of bytes before it. -/
abbrev Marks := List (Char × Nat)

/-- The marks of a text, from a number of bytes on. -/
def marksFrom (start : Nat) : List Char → Marks
  | [] => []
  | c :: rest => (c, start) :: marksFrom (start + c.utf8Size) rest

/-- The text without the blanks around it. -/
def trim (text : List Char) : List Char :=
  ((text.dropWhile isBlank).reverse.dropWhile isBlank).reverse

/-- The level behind the equals sign, everything if there is none. -/
def levelOf : List Char → Except FilterFault Level
  | [] => pure .trace
  | text =>
    match Level.parse? text with
    | some level => pure level
    | none => throw .unreadable

/-- The directive with what follows its closing bracket or its part. -/
def ending (d : Directive) (text : List Char) : Marks → Except FilterFault Directive
  | [] => pure d
  | ('=', position) :: _ => do return { d with level := ← levelOf (← cutFrom text (position + 1)) }
  | _ => throw .unreadable

/-- A value can be asked to be this. -/
def isWanted (wanted : String) : Bool := (signedDecimal? wanted).isSome || isPattern wanted

/-- The named value, and what it has to be. -/
def valueOf (text : List Char) : Except FilterFault (String × Option String) :=
  match (String.ofList text).splitOn "=" with
  | [name] => if name.isEmpty then throw .unreadable else pure (name, none)
  | name :: wanted :: _ => if isWanted wanted then pure (name, some wanted) else throw .unreadable
  | [] => throw .unreadable

/-- The directive whose named value begins at a number of bytes. -/
def withValue (d : Directive) (text : List Char) (start : Nat) (marks : Marks) :
    Except FilterFault Directive := do
  match marks.dropWhile (·.1 ≠ '\x7d') with
  | (_, stop) :: rest =>
    let value ← valueOf (← cut text start stop)
    match rest with
    | (']', _) :: rest => ending { d with value := some value } text rest
    | _ => throw .unreadable
  | [] => throw .unreadable

/-- The directive whose span begins at a number of bytes. -/
def withSpan (d : Directive) (text : List Char) (start : Nat) (marks : Marks) :
    Except FilterFault Directive := do
  match marks.dropWhile fun (c, _) => c ≠ ']' && c ≠ '\x7b' with
  | (c, stop) :: rest =>
    let span := String.ofList (← cut text start stop)
    if c = ']' then ending { d with span := some span } text rest
    else
      let span := if span.isEmpty then none else some span
      withValue { d with span } text (stop + 1) rest
  | [] => throw .unreadable

/-- The directive of a text. -/
def parse (text : String) : Except FilterFault Directive := do
  let text := text.toList
  let marks := marksFrom 0 (trim text)
  match marks with
  | [] => throw .unreadable
  | ('[', _) :: rest => withSpan (everything none) text 1 rest
  | (c, _) :: _ =>
    if !canStart c then throw .unreadable
    match marks.dropWhile fun (c, _) => c ≠ '=' && c ≠ '[' with
    | [] =>
      match Level.parse? text with
      | some level => pure { everything none with level }
      | none => pure (everything (some (String.ofList text)))
    | (c, stop) :: rest =>
      let target ← cut text 0 stop
      let d := everything (some (String.ofList target))
      if c = '=' then ending d text ((c, stop) :: rest) else withSpan d text (stop + 1) rest

/-- The directive can decide on events. -/
def isForEvents (d : Directive) : Bool :=
  d.span.isNone && d.value.all fun (_, wanted) => wanted.isNone

def covers (d : Directive) (e : LogEvent) : Bool :=
  d.isForEvents && d.target.all (e.target.startsWith ·)
    && d.value.all fun (name, _) => e.names.contains name

/-- The length of the name of the part, a part without a name being behind all
others. -/
def reach (d : Directive) : Nat := (d.target.map (·.utf8ByteSize + 1)).getD 0

/-- The second directive, which comes later, decides on an event that both are
for. -/
def yields (a b : Directive) : Bool :=
  a.reach < b.reach || a.reach = b.reach &&
    match a.value, b.value with
    | none, _ => true
    | some _, none => false
    | some (x, _), some (y, _) => x ≤ y

end Directive

namespace LogFilter

def parse (text : String) : Except FilterFault LogFilter :=
  ((text.splitOn ",").filter (!·.isEmpty)).mapM Directive.parse

/-- What is told where a filter is unreadable. -/
def fallback : LogFilter := [⟨none, none, none, .info⟩]

/-- The directive that decides on an event. -/
def decisive? (filter : LogFilter) (e : LogEvent) : Option Directive :=
  (filter.filter (·.covers e)).foldl (fun best d =>
    match best with
    | some b => if b.yields d then some d else some b
    | none => some d) none

def allows (filter : LogFilter) (e : LogEvent) : Bool :=
  (filter.decisive? e).any fun d => e.level.rank ≤ d.level.rank

end LogFilter

end DocSieve
