import DocSieve.Format
import DocSieve.Numeric.Binary

/-!
# TOML values

A document is a table of named values. A table remembers how it came to be,
for that decides what may still be added to it.

Key definitions: `TomlValue`, `TableOrigin`, `tomlFormat`.
-/

namespace DocSieve

/-- How a table came to be. -/
inductive TableOrigin
  /-- By a header of its own. -/
  | header
  /-- By a header of a table inside it. -/
  | implied
  /-- By a dotted key. -/
  | dotted
  /-- Between braces. -/
  | braces
  deriving DecidableEq, Repr

/-- A value of a document. -/
inductive TomlValue
  | string (text : String)
  | integer (n : Int)
  | float (x : Float)
  | boolean (b : Bool)
  /-- A date, a time, or both. Nothing asks for its parts. -/
  | datetime
  | array (items : List TomlValue)
  | table (origin : TableOrigin) (members : List (String × TomlValue))
  /-- The tables of one name with headers in double brackets, the last one
  first. -/
  | tables (elements : List (List (String × TomlValue)))

namespace TomlValue

/-- The values of named fields. A table gives them by name and an array in
order, the last ones may be missing and further ones are skipped. A date shows
no field. -/
def fields (names : List String) : TomlValue → Option (List (Option TomlValue))
  | .table _ members => some (names.map (List.lookup · members))
  | .array items => some ((List.range names.length).map (items[·]?))
  | .tables elements =>
    let elements := elements.reverse
    some ((List.range names.length).map fun i => elements[i]?.map (.table .header))
  | .datetime => some (names.map fun _ => none)
  | _ => none

/-- An integer that is not negative. -/
def word? : TomlValue → Option UInt64
  | .integer n => if 0 ≤ n then some (UInt64.ofNat n.toNat) else none
  | _ => none

/-- The single-precision number nearest to a number. -/
def single? : TomlValue → Option Float32
  | .float x => some (narrow x)
  | .integer n =>
    let x := naturalToSingle n.natAbs
    some (if n < 0 then -x else x)
  | _ => none

def text? : TomlValue → Option String
  | .string text => some text
  | _ => none

end TomlValue

/-- How TOML values are read. Every value stands for something. -/
def tomlFormat : Format TomlValue where
  fields := TomlValue.fields
  word := TomlValue.word?
  single := TomlValue.single?
  text := TomlValue.text?
  isNull := fun _ => false

end DocSieve
