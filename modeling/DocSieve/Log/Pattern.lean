import DocSieve.Text.Alphabetic
import DocSieve.Text.Blank
import DocSieve.Text.Hexadecimal
import DocSieve.Text.Numeric

/-!
# Patterns

A pattern says what texts a value may be: a regular expression, whose grammar
this is. Beyond ASCII a pattern knows characters only by themselves. It cannot
name a class of them, look for the bounds of words, or leave letters in either
case, unless it gives up Unicode for bytes; and then it must not match a part
of a character. An opening brace asks for a closing one, which no pattern has
in it, because it would end the value.

Reading keeps a stack of the groups that are open. Each holds how deep its
parts are nested, since a pattern may be nested only so deep.

Key definitions: `PatternMode`, `PatternGroup`, `PatternReading.step?`,
`isPattern`.
-/

namespace DocSieve

/-- How the rest of a group is understood. -/
structure PatternMode where
  /-- Letters stand for either case. -/
  caseless : Bool
  /-- The pattern is about characters, not bytes. -/
  unicode : Bool
  /-- Blanks and comments may stand between the parts. -/
  spaced : Bool
  deriving DecidableEq, Repr

/-- A character of a pattern. -/
structure PatternLetter where
  char : Char
  /-- It was written as the number of a byte. -/
  isByte : Bool

/-- What stands behind a backslash. -/
inductive PatternEscape
  | letter (l : PatternLetter)
  /-- Digits, blanks, or the characters of words, or all the others. -/
  | shorthand (negated : Bool)
  /-- A bound of a word, or where none is. -/
  | wordBound
  /-- The start or the end of the text. -/
  | edge

/-- How deep some parts are nested together. -/
def nestedTogether : (depths : List Nat) → Nat
  | [] => 0
  | [depth] => depth
  | depth :: depths => depths.foldl max depth + 1

namespace PatternMode

/-- How a pattern begins. -/
def initial : PatternMode := ⟨false, true, false⟩

variable (m : PatternMode)

/-- The text behind blanks and comments, from inside of a comment or not. -/
def skipFrom : (inComment : Bool) → List Char → List Char
  | _, [] => []
  | true, c :: rest => skipFrom (c ≠ '\n') rest
  | false, c :: rest =>
    if isBlank c then skipFrom false rest
    else if c = '#' then skipFrom true rest
    else c :: rest

/-- The text from the next part on. -/
def skip (text : List Char) : List Char := if m.spaced then skipFrom false text else text

/-- The next character behind blanks, where the number sign counts as a blank
once. -/
def glimpse (text : List Char) : Option Char :=
  if m.spaced then
    match text.dropWhile isBlank with
    | '#' :: rest => (rest.dropWhile isBlank).head?
    | rest => rest.head?
  else text.head?

/-- A letter can be matched. -/
def admits (l : PatternLetter) : Bool :=
  if m.unicode then !m.caseless else !l.isByte || l.char ≤ '\x7f'

/-- A letter can be in a set. -/
def admitsInSet (l : PatternLetter) : Bool :=
  if m.unicode then !m.caseless else l.char ≤ '\x7f'

/-- A shorthand can be matched, alone or in a set. -/
def admitsShorthand (negated : Bool) : Bool := !m.unicode && !negated

/-- A named class of ASCII characters, or of all the others, can be in a set. -/
def admitsClass (negated : Bool) : Bool := if m.unicode then !m.caseless else !negated

/-- The mode with one flag set. -/
def setFlag (flag : Char) (value : Bool) : PatternMode :=
  if flag = 'i' then { m with caseless := value }
  else if flag = 'u' then { m with unicode := value }
  else if flag = 'x' then { m with spaced := value }
  else m

/-- The mode after flags, those behind a minus sign taken back. Each flag may be
named once, and one has to follow the sign. -/
def setFlags? (flags : List Char) : Option PatternMode :=
  if flags.all ("imsUuRx-".toList.contains ·) && decide flags.Nodup && flags.getLast? ≠ some '-'
  then
    let (on, off) := flags.span (· ≠ '-')
    let m := on.foldl (·.setFlag · true) m
    some (off.foldl (·.setFlag · false) m)
  else none

/-! ### Escapes -/

/-- A character by `count` digits, and the text after them. -/
def hexLetter? : (count : Nat) → (digits : List Char) → List Char → Option (Char × List Char)
  | 0, digits, text => (hexCharacter? digits.reverse).map (·, m.skip text)
  | count + 1, digits, text =>
    match m.skip text with
    | c :: rest => if (hexValue? c).isSome then hexLetter? count (c :: digits) rest else none
    | [] => none

/-- The control characters that have a letter. -/
def controlLetters : List (Char × Char) :=
  [('a', '\x07'), ('f', '\x0c'), ('t', '\t'), ('n', '\n'), ('r', '\r'), ('v', '\x0b')]

/-- The escape behind a backslash, and the text after it. All of ASCII but
letters and digits can be escaped; digits would refer back to a group. -/
def escape? : List Char → Option (PatternEscape × List Char)
  | [] => none
  | c :: rest =>
    let letter (isByte : Bool) : Char × List Char → PatternEscape × List Char
      | (char, rest) => (.letter ⟨char, isByte⟩, rest)
    match controlLetters.lookup c with
    | some control => some (letter false (control, rest))
    | none =>
      if c = 'x' then (m.hexLetter? 2 [] rest).map (letter true)
      else if c = 'u' then (m.hexLetter? 4 [] rest).map (letter false)
      else if c = 'U' then (m.hexLetter? 8 [] rest).map (letter false)
      else if c = 'd' || c = 's' || c = 'w' then some (.shorthand false, rest)
      else if c = 'D' || c = 'S' || c = 'W' then some (.shorthand true, rest)
      else if c = 'b' || c = 'B' || c = '<' || c = '>' then some (.wordBound, rest)
      else if c = 'A' || c = 'z' then some (.edge, rest)
      else if c ≤ '\x7f' && !c.isAlphanum then some (letter false (c, rest))
      else none

/-! ### Sets -/

/-- A set that is being read. -/
structure OpenSet where
  /-- How deep each item is nested since the last operation. -/
  items : List Nat
  /-- How deep all before the last operation is nested. -/
  before : Option Nat

/-- How deep a set is nested within its brackets. -/
def OpenSet.depth (set : OpenSet) : Nat :=
  let items := nestedTogether set.items
  match set.before with
  | none => items
  | some before => max before items + 1

/-- One more item. -/
def OpenSet.add (set : OpenSet) (depth : Nat) : OpenSet := { set with items := depth :: set.items }

/-- An operation between what was read and what follows. -/
def OpenSet.operate (set : OpenSet) : OpenSet := ⟨[], some set.depth⟩

/-- The names of classes of ASCII characters. -/
def classNames : List String :=
  ["alnum", "alpha", "ascii", "blank", "cntrl", "digit", "graph", "lower", "print", "punct",
    "space", "upper", "word", "xdigit"]

/-- A named class behind a bracket, whether it is negated, and the text after
it. -/
def namedClass? : List Char → Option (Bool × List Char)
  | ':' :: rest =>
    let (negated, rest) := match rest with
      | '^' :: rest => (true, rest)
      | rest => (false, rest)
    let (name, rest) := rest.span (· ≠ ':')
    match rest with
    | ':' :: ']' :: rest =>
      if classNames.contains (String.ofList name) then some (negated, rest) else none
    | _ => none
  | _ => none

/-- The number of minus signs in front, and the text after them. -/
def dashes : (rounds : Nat) → List Char → Nat × List Char
  | 0, text => (0, text)
  | rounds + 1, text =>
    match m.skip text with
    | '-' :: rest =>
      let (count, rest) := dashes rounds rest
      (count + 1, rest)
    | rest => (0, rest)

/-- The set behind a bracket: minus signs in front are letters, and without
them so is a closing bracket. -/
def openSet? (text : List Char) : Option (OpenSet × List Char) :=
  let (negated, text) := match m.skip text with
    | '^' :: rest => (true, rest)
    | rest => (false, rest)
  let (count, text) := m.dashes (text.length + 1) text
  let (letters, text) := match count, text with
    | 0, ']' :: rest => ([']'], rest)
    | count, rest => (List.replicate count '-', rest)
  if (negated && !m.unicode) || letters.any (!m.admitsInSet ⟨·, false⟩) then none
  else some (⟨letters.map fun _ => 0, none⟩, text)

/-- A letter or an escape in a set, and the text after it. -/
def setPart? : List Char → Option (PatternEscape × List Char)
  | '\\' :: rest => m.escape? rest
  | c :: rest => some (.letter ⟨c, false⟩, rest)
  | [] => none

/-- The text after an item of a set: a letter, a shorthand, or the letters from
one to another. -/
def setItem? (text : List Char) : Option (List Char) := do
  let (first, rest) ← m.setPart? text
  let rest := m.skip rest
  let alone : Option (List Char) :=
    match first with
    | .letter l => if m.admitsInSet l then some rest else none
    | .shorthand negated => if m.admitsShorthand negated then some rest else none
    | _ => none
  match rest with
  | '-' :: behind =>
    if m.glimpse behind = some ']' || m.glimpse behind = some '-' then alone
    else
      match first, ← m.setPart? (m.skip behind) with
      | .letter a, (.letter b, rest) =>
        if a.char ≤ b.char && m.admitsInSet a && m.admitsInSet b then some rest else none
      | _, _ => none
  | _ => alone

/-- How deep a set is nested, its brackets included, and the text after it. -/
def set? : (rounds : Nat) → (sets : List OpenSet) → List Char → Option (Nat × List Char)
  | 0, _, _ => none
  | _, [], _ => none
  | rounds + 1, set :: outer, text =>
    match m.skip text with
    | '[' :: rest =>
      match namedClass? rest with
      | some (negated, rest) =>
        if m.admitsClass negated then set? rounds (set.add 0 :: outer) rest else none
      | none => do
        let (inner, rest) ← m.openSet? rest
        set? rounds (inner :: set :: outer) rest
    | ']' :: rest =>
      match outer with
      | [] => some (set.depth + 1, rest)
      | next :: outer => set? rounds (next.add (set.depth + 1) :: outer) rest
    | '&' :: '&' :: rest | '-' :: '-' :: rest | '~' :: '~' :: rest =>
      set? rounds (set.operate :: outer) rest
    | text => do set? rounds (set.add 0 :: outer) (← m.setItem? text)

end PatternMode

/-! ### Groups -/

/-- A part of a pattern that was read. -/
structure PatternPart where
  depth : Nat
  /-- It can be repeated. -/
  repeatable : Bool

/-- A group that is open. The whole pattern is one, too. -/
structure PatternGroup where
  /-- The mode outside of it. -/
  outside : PatternMode
  /-- The parts of the branch that is being read, the last one first. -/
  parts : List PatternPart
  /-- How deep each earlier branch is nested. -/
  branches : List Nat

namespace PatternGroup

variable (g : PatternGroup)

/-- A group without parts. -/
def start (outside : PatternMode) : PatternGroup := ⟨outside, [], []⟩

/-- How deep the branch that is being read is nested. -/
def branchDepth : Nat := nestedTogether (g.parts.map (·.depth))

/-- How deep the group is nested, without itself. -/
def depth : Nat := nestedTogether (g.branchDepth :: g.branches)

/-- One more part. -/
def add (depth : Nat) (repeatable : Bool) : PatternGroup :=
  { g with parts := ⟨depth, repeatable⟩ :: g.parts }

/-- The group at the start of its next branch. -/
def nextBranch : PatternGroup := { g with parts := [], branches := g.branchDepth :: g.branches }

/-- The last part repeated. -/
def repeatLast? : Option PatternGroup :=
  match g.parts with
  | last :: parts =>
    if last.repeatable then some { g with parts := ⟨last.depth + 1, true⟩ :: parts } else none
  | [] => none

end PatternGroup

/-- A pattern that is being read. -/
structure PatternReading where
  mode : PatternMode
  group : PatternGroup
  /-- The groups around it, the nearest first. -/
  around : List PatternGroup
  /-- The names of the groups so far. -/
  names : List (List Char)
  text : List Char

namespace PatternReading

variable (r : PatternReading)

/-- A pattern of which nothing was read. -/
def start (text : List Char) : PatternReading :=
  ⟨.initial, .start .initial, [], [], text⟩

/-- A part was read, if it can be matched. -/
def read? (possible : Bool) (depth : Nat) (rest : List Char) : Option PatternReading :=
  if possible then some { r with group := r.group.add depth true, text := rest } else none

/-- The reading inside of a new group. -/
def enter (mode : PatternMode) (rest : List Char) : PatternReading :=
  { r with mode, group := .start r.mode, around := r.group :: r.around, text := rest }

def isGroupName : List Char → Bool
  | [] => false
  | c :: rest =>
    (c = '_' || isAlphabetic c)
      && rest.all fun c => "_.[]".toList.contains c || isAlphabetic c || isNumeric c

/-- The reading inside of a group with a name, which no other group has. -/
def enterNamed? (text : List Char) : Option PatternReading :=
  match text.span (· ≠ '>') with
  | (name, '>' :: rest) =>
    if isGroupName name && !r.names.contains name then
      some { r.enter r.mode rest with names := name :: r.names }
    else none
  | _ => none

/-- What follows an opening parenthesis: a group, or flags for the rest of the
one that is open. A pattern cannot look around. -/
def afterParenthesis? (text : List Char) : Option PatternReading :=
  match r.mode.skip text with
  | '?' :: 'P' :: '<' :: rest => r.enterNamed? rest
  | '?' :: '<' :: rest => r.enterNamed? rest
  | '?' :: rest => do
    let (flags, rest) := rest.span fun c => c ≠ ':' && c ≠ ')'
    let mode ← r.mode.setFlags? flags
    match rest with
    | ':' :: rest => some (r.enter mode rest)
    | ')' :: rest =>
      if flags.isEmpty then none
      else some { r with mode, group := r.group.add 0 false, text := rest }
    | _ => none
  | rest => some (r.enter r.mode rest)

/-- The reading after the group that is open has closed. -/
def close? (rest : List Char) : Option PatternReading :=
  match r.around with
  | next :: around =>
    some { r with
      mode := r.group.outside
      group := next.add (r.group.depth + 1) true
      around
      text := rest }
  | [] => none

/-- The reading after the next part; `none` where there cannot be one. -/
def step? : Option PatternReading :=
  let m := r.mode
  match m.skip r.text with
  | [] => none
  | '(' :: rest => r.afterParenthesis? rest
  | ')' :: rest => r.close? rest
  | '|' :: rest => some { r with group := r.group.nextBranch, text := rest }
  | '[' :: rest => do
    let (set, rest) ← m.openSet? rest
    let (depth, rest) ← m.set? (rest.length + 1) [set] rest
    r.read? true depth rest
  | '?' :: rest | '*' :: rest | '+' :: rest => do
    let group ← r.group.repeatLast?
    some { r with group, text := if rest.head? = some '?' then rest.tail else rest }
  | '\x7b' :: _ => none
  | '.' :: rest => r.read? m.unicode 0 rest
  | '^' :: rest | '$' :: rest => r.read? true 0 rest
  | '\\' :: rest => do
    let (escape, rest) ← m.escape? rest
    let possible := match escape with
      | .letter l => m.admits l
      | .shorthand negated => m.admitsShorthand negated
      | .wordBound => !m.unicode
      | .edge => true
    r.read? possible 0 rest
  | c :: rest => r.read? (m.admits ⟨c, false⟩) 0 rest

def maxDepth : Nat := 250

/-- All was read, every group is closed, and none is nested too deep. -/
def isComplete : Bool :=
  (r.mode.skip r.text).isEmpty && r.around.isEmpty && r.group.depth ≤ maxDepth

/-- The reading runs to the end of a pattern. Each round takes off a character. -/
def completes : (rounds : Nat) → PatternReading → Bool
  | 0, r => r.isComplete
  | rounds + 1, r =>
    r.isComplete ||
      match r.step? with
      | some next => completes rounds next
      | none => false

end PatternReading

def isPattern (text : String) : Bool :=
  let text := text.toList
  (PatternReading.start text).completes text.length

end DocSieve
