import DocSieve.Toml.Lexeme
import DocSieve.Toml.Table

/-!
# Reading TOML

A document is a sequence of lines: blank ones, comments, headers and entries.
An array may go over several lines and a table between braces may not. Values
are nested less than eighty deep.

Key definitions: `TomlValue.parse?`.
-/

namespace DocSieve

namespace TomlParser

open Toml

/-- An entry of a key that was read, and its value. -/
def entry? (names : List String) (value : TomlValue) : Option Entry :=
  names.getLast?.map fun name => ⟨names.dropLast, name, value⟩

/-- A number or a date. -/
def numeric? : Reader TomlValue := fun text =>
  match datetime? text with
  | some rest => some (.datetime, rest)
  | none =>
    match float? text with
    | some (x, rest) => some (.float x, rest)
    | none => (integer? text).map fun (n, rest) => (.integer n, rest)

mutual

def value? (depth : Nat) : (fuel : Nat) → Reader TomlValue
  | 0, _ => none
  | fuel + 1, text =>
    match text with
    | '"' :: _ | '\'' :: _ =>
      (string? fuel text).map fun (cs, rest) => (.string (String.ofList cs), rest)
    | '[' :: rest => do
      if depth + 1 ≥ depthLimit then none
      let (items, rest) ← items? (depth + 1) fuel rest
      return (.array items, rest)
    | '\x7b' :: rest => do
      if depth + 1 ≥ depthLimit then none
      let (entries, rest) ← braced? (depth + 1) fuel rest
      return (.table .braces (← insertAll? entries []), rest)
    | 't' :: 'r' :: 'u' :: 'e' :: rest => some (.boolean true, rest)
    | 'f' :: 'a' :: 'l' :: 's' :: 'e' :: rest => some (.boolean false, rest)
    | _ => numeric? text

/-- The items of an array up to its closing bracket. -/
def items? (depth : Nat) : (fuel : Nat) → Reader (List TomlValue)
  | 0, _ => none
  | fuel + 1, text => do
    match ← skipLines? false text with
    | ']' :: rest => return ([], rest)
    | text =>
      let (item, rest) ← value? depth fuel text
      match ← skipLines? false rest with
      | ']' :: rest => return ([item], rest)
      | ',' :: rest =>
        let (items, rest) ← items? depth fuel rest
        return (item :: items, rest)
      | _ => none

/-- The entries of a table up to its closing brace. -/
def braced? (depth : Nat) : (fuel : Nat) → Reader (List Entry)
  | 0, _ => none
  | fuel + 1, text =>
    match skip text with
    | '\x7d' :: rest => some ([], rest)
    | text => bracedEntries? depth fuel text

/-- The entries of a table up to its closing brace, at least one. -/
def bracedEntries? (depth : Nat) : (fuel : Nat) → Reader (List Entry)
  | 0, _ => none
  | fuel + 1, text => do
    let (names, rest) ← key? fuel text
    let (value, rest) ← value? depth fuel (skip (← literal? '=' rest))
    let entry ← entry? names value
    match skip rest with
    | '\x7d' :: rest => return ([entry], rest)
    | ',' :: rest =>
      let (entries, rest) ← bracedEntries? depth fuel rest
      return (entry :: entries, rest)
    | _ => none

end

/-- A header and the text after its line. -/
def header? (rounds : Nat) : Reader Header := fun text => do
  let (several, rest) := match text with
    | '[' :: '[' :: rest => (true, rest)
    | text => (false, text.drop 1)
  let (names, rest) ← key? rounds rest
  let rest ← literal? ']' rest
  let rest ← if several then literal? ']' rest else some rest
  let name ← names.getLast?
  return (⟨names.dropLast, name, several⟩, ← lineEnd? rest)

/-- An entry and the text after its line. -/
def line? (rounds : Nat) : Reader Entry := fun text => do
  let (names, rest) ← key? rounds text
  let (value, rest) ← value? 0 rounds (skip (← literal? '=' rest))
  return (← entry? names value, ← lineEnd? rest)

/-- What a line adds to a document. -/
inductive Line
  | entry (e : Entry)
  | header (h : Header)

/-- The lines of a document. Each round takes off a line, and two for each
character are enough for what stands in the line. -/
def lines? : (rounds : Nat) → List Char → Option (List Line)
  | 0, _ => some []
  | rounds + 1, text => do
    match ← skipLines? false text with
    | [] => return []
    | '[' :: rest =>
      let (h, rest) ← header? rounds ('[' :: rest)
      return .header h :: (← lines? rounds rest)
    | text =>
      let (e, rest) ← line? rounds text
      return .entry e :: (← lines? rounds rest)

/-- The entries before the first header, and the sections. -/
def sections : List Line → List Entry × List Section
  | [] => ([], [])
  | .entry e :: lines =>
    let (entries, rest) := sections lines
    (e :: entries, rest)
  | .header h :: lines =>
    let (entries, rest) := sections lines
    ([], ⟨h, entries⟩ :: rest)

end TomlParser

namespace TomlValue

/-- The document of a text, which may start with a byte order mark. -/
def parse? (text : String) : Option TomlValue := do
  let chars := match text.toList with
    | '\ufeff' :: rest => rest
    | chars => chars
  let (entries, sections) := TomlParser.sections (← TomlParser.lines? (2 * chars.length + 2) chars)
  Toml.assemble? entries sections

end TomlValue

end DocSieve
