import DocSieve.Format
import DocSieve.Json.Number

/-!
# JSON as a format

Key definitions: `jsonFormat`.
-/

namespace DocSieve

/-- How JSON values are read. -/
def jsonFormat : Format JsonValue where
  fields := JsonValue.fields
  word := JsonValue.word?
  single := JsonValue.single?
  text := JsonValue.text?
  isNull := JsonValue.isNull

end DocSieve
