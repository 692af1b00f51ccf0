import DocSieve.Document.Json
import DocSieve.Fault.Basic
import DocSieve.Json.Printer

/-!
# Result lines

A decision is printed on one line, as a record or as JSON. Standard output
holds back what is printed until a line is complete or does not fit in the
place there is; when it takes nothing any more, this is where the fault shows.

Key definitions: `Decision.line`, `Decision.outputFault`.
-/

namespace DocSieve

/-- The bytes that standard output can hold back. -/
def heldBytes : Nat := 1024

/-- There is no space left to write to. -/
def noSpace : IoFault := .os 28

namespace Decision

variable (d : Decision)

/-- The decision without the end of the line. -/
def text (json : Bool) : String := if json then d.toJson.render else d.describe

def line (json : Bool) : String := d.text json ++ "\n"

/-- The fault of printing the decision where nothing can be written: JSON that
does not fit in the place there is fails while it is made, all else when the
line ends. -/
def outputFault (json : Bool) : Fault :=
  if json && (d.text json).utf8ByteSize > heldBytes then .serialization noSpace.text
  else .io noSpace

end Decision

end DocSieve
