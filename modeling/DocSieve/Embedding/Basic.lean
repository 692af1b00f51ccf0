import DocSieve.Document.Basic
import DocSieve.Embedding.Hash
import DocSieve.Fault.Basic

/-!
# Embedding by signed feature hashing

A term adds one to the component that its hash names, or subtracts one when
the hash is odd. The vector of counts is then divided by its length. Terms
with the same component are not told apart.

Key definitions: `Embedder`, `Embedder.new?`, `Embedder.counts`,
`Embedder.embed`.
-/

namespace DocSieve

/-- The most bytes that one allocation can hold. -/
def maxAllocation : Nat := 0x7fffffffffffffff

/-- The component of a hash. -/
def bucket (dimensions hash : UInt64) : Nat := (hash % dimensions).toNat

/-- What a hash adds to its component. -/
def sign (hash : UInt64) : Float32 := if hash &&& 1 = 0 then 1.0 else -1.0

/-- Makes vectors of a fixed number of components, at least one. -/
structure Embedder where
  dimensions : UInt64
  dimensions_ne_zero : dimensions ≠ 0

namespace Embedder

/-- An embedder, unless the vectors would have no components. -/
def new? (dimensions : UInt64) : Except Fault Embedder :=
  if h : dimensions = 0 then throw (.config .embedderDimensions) else pure ⟨dimensions, h⟩

variable (e : Embedder)

/-- One more term counted. -/
def count (v : Vector32) (term : String) : Vector32 :=
  let hash := hashText term
  v.modify (bucket e.dimensions hash) (· + sign hash)

/-- The signed counts of the terms, before they are normalised. -/
def counts (terms : List String) : Vector32 :=
  terms.foldl e.count (Vector32.zeros e.dimensions.toNat)

/-- A vector of this many components can be held in memory. -/
def fits : Bool := e.dimensions.toNat * 4 ≤ maxAllocation

/-- The vector of a list of terms. -/
def embed (terms : List String) : Except Fault Vector32 :=
  if e.fits then pure (e.counts terms).normalize else throw .oversize

def embedDocument (doc : TokenizedDocument) : Except Fault EmbeddedDocument := do
  let embedding ← e.embed (doc.tokens.map (·.term))
  return ⟨doc.id, embedding⟩

def describe : String :=
  "Embedder \x7b dimensions: " ++ Nat.repr e.dimensions.toNat ++ " \x7d"

end Embedder

end DocSieve
