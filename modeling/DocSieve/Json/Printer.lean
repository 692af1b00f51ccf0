import DocSieve.Json.Basic

/-!
# Writing JSON

Values are written without spaces. In strings, the quote, the backslash and
the control characters are escaped, by a letter where there is one; everything
else stands for itself.

Key definitions: `JsonValue.render`, `JsonText.render`.
-/

namespace DocSieve

/-- A hexadecimal digit in lower case. -/
def hexDigit (n : Nat) : Char := Nat.digitChar n

/-- One character of a JSON string. -/
def jsonEscape (c : Char) : List Char :=
  if c = '"' then ['\\', '"']
  else if c = '\\' then ['\\', '\\']
  else if c = '\x08' then ['\\', 'b']
  else if c = '\x0c' then ['\\', 'f']
  else if c = '\n' then ['\\', 'n']
  else if c = '\r' then ['\\', 'r']
  else if c = '\t' then ['\\', 't']
  else if c.toNat < 0x20 then
    ['\\', 'u', '0', '0', hexDigit (c.toNat / 16), hexDigit (c.toNat % 16)]
  else [c]

/-- A string with its quotes. A broken one is written as half a character. -/
def JsonText.render : JsonText → List Char
  | .whole text => '"' :: text.toList.flatMap jsonEscape ++ ['"']
  | .broken => ['"', '\\', 'u', 'd', '8', '0', '0', '"']

namespace JsonValue

mutual

/-- The text of a value. -/
def renderChars : JsonValue → List Char
  | .null => ['n', 'u', 'l', 'l']
  | .bool true => ['t', 'r', 'u', 'e']
  | .bool false => ['f', 'a', 'l', 's', 'e']
  | .number lexeme => lexeme
  | .string text => text.render
  | .array items => '[' :: renderItems items
  | .object members => '\x7b' :: renderMembers members

/-- The items of an array, with the bracket that closes it. -/
def renderItems : List JsonValue → List Char
  | [] => [']']
  | [item] => renderChars item ++ [']']
  | item :: rest => renderChars item ++ ',' :: renderItems rest

/-- The members of an object, with the brace that closes it. -/
def renderMembers : List (JsonText × JsonValue) → List Char
  | [] => ['\x7d']
  | [(name, value)] => name.render ++ ':' :: renderChars value ++ ['\x7d']
  | (name, value) :: rest =>
    name.render ++ ':' :: renderChars value ++ ',' :: renderMembers rest

end

def render (value : JsonValue) : String := String.ofList value.renderChars

end JsonValue

end DocSieve
