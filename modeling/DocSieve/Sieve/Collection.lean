import DocSieve.Index.Basic
import DocSieve.Metrics.Snapshot

/-!
# The collection

The index of stored vectors together with the counts of its decisions. The
threshold is counted when the collection is made, a document before the
nearest entry is looked for, and a duplicate once that is found to be near
enough.

Key definitions: `Collection`, `Collection.create?`, `Collection.commit`,
`Collection.submit`.
-/

namespace DocSieve

/-- Stored vectors and what was decided so far. -/
structure Collection where
  index : Index
  tally : IndexTally

namespace Collection

/-- A collection of nothing, with room for `capacity` vectors. -/
def create? (threshold : Float32) (capacity : UInt64) : Except Fault Collection := do
  let index ← Index.create? threshold capacity
  return ⟨index, { IndexTally.zero with threshold }⟩

variable (c : Collection) (doc : EmbeddedDocument)

/-- The collection after its nearest entry to a document was found: a duplicate is
counted, anything else is stored. -/
def commit (nearest : Hit) : Collection × Decision :=
  let decision := c.index.judge doc nearest
  if decision.isDuplicate then ({ c with tally := c.tally.repeated }, decision)
  else ({ c with index := c.index.store doc }, decision)

/-- The collection after a document, with the decision on it. -/
def submit : Collection × Decision :=
  let counted : Collection := { c with tally := c.tally.submitted }
  counted.commit doc (counted.index.nearest doc.embedding)

end Collection

end DocSieve
