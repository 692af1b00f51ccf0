/-!
# JSON values

A value of the JSON grammar. Numbers keep their text, for what it stands for
depends on what is asked. A string may name half a character by an escape;
such a string is part of the grammar but stands for no text.

Key definitions: `JsonValue`, `JsonText`, `JsonValue.fields`.
-/

namespace DocSieve

/-- A string of the grammar: a text, unless an escape names half a character. -/
inductive JsonText
  | whole (text : String)
  | broken
  deriving DecidableEq, Repr

/-- The text that a string stands for. -/
def JsonText.text? : JsonText → Option String
  | .whole text => some text
  | .broken => none

/-- A value of the grammar. -/
inductive JsonValue
  | null
  | bool (value : Bool)
  | number (lexeme : List Char)
  | string (text : JsonText)
  | array (items : List JsonValue)
  | object (members : List (JsonText × JsonValue))

namespace JsonValue

/-- The value of the member with this name, if there is exactly one; none if
there are several. -/
def member? (members : List (JsonText × JsonValue)) (name : String) : Option (Option JsonValue) :=
  match members.filter (·.1 == .whole name) with
  | [] => some none
  | [(_, value)] => some (some value)
  | _ => none

/-- The values of named fields. An object gives them by name, other members
are skipped; an array in order, the last ones may be missing. -/
def fields (names : List String) : JsonValue → Option (List (Option JsonValue))
  | .object members =>
    if members.any (·.1 == .broken) then none else names.mapM (member? members)
  | .array items =>
    if items.length ≤ names.length then
      some (items.map some ++ List.replicate (names.length - items.length) none)
    else none
  | _ => none

def text? : JsonValue → Option String
  | .string text => text.text?
  | _ => none

def bool? : JsonValue → Option Bool
  | .bool value => some value
  | _ => none

/-- The items of an array, each read in the same way. -/
def items? {α : Type} (read : JsonValue → Option α) : JsonValue → Option (List α)
  | .array items => items.mapM read
  | _ => none

def isNull : JsonValue → Bool
  | .null => true
  | _ => false

/-- A text as a value. -/
def ofText (text : String) : JsonValue := .string (.whole text)

/-- A record as a value, by the names and values of its fields. -/
def record (members : List (String × JsonValue)) : JsonValue :=
  .object (members.map fun (name, value) => (.whole name, value))

end JsonValue

end DocSieve
