import DocSieve.Embedding.Basic
import DocSieve.Ranking.Basic

/-!
# The index of stored vectors

A document repeats a stored one when its similarity to the nearest stored
vector reaches the threshold; otherwise its vector is stored. The nearest
entry is the first one with the greatest similarity above zero. Names and
vectors are stored apart, in two arrays that are gone over side by side.

Key definitions: `Index`, `Index.nearest`, `Index.store`, `Index.submit`,
`Index.search?`.
-/

namespace DocSieve

/-- A stored vector and the document that it belongs to. -/
structure Index.Entry where
  id : String
  vector : Vector32

/-- The names of the stored documents and their vectors, each in the order of their
arrival. -/
structure Index where
  threshold : Float32
  names : Array String
  vectors : Array Vector32

/-- A stored document and its similarity to a query. -/
structure Hit where
  id : String
  score : Float32

namespace Index

/-- A threshold is a similarity above zero that a unit vector can reach. -/
def acceptsThreshold (threshold : Float32) : Bool := threshold > 0.0 && threshold ≤ 1.0

/-- An index in which nothing is stored. -/
def empty (threshold : Float32) : Index := ⟨threshold, #[], #[]⟩

/-- An empty index with room for `capacity` names and as many vectors, of sixteen bytes
each. -/
def create? (threshold : Float32) (capacity : UInt64) : Except Fault Index :=
  if !acceptsThreshold threshold then throw (.config .indexThreshold)
  else if capacity.toNat * 16 > maxAllocation then throw .oversize
  else pure (.empty threshold)

variable (index : Index)

/-- The better of two hits, the earlier one unless the later is strictly better. -/
def better (best : Hit) (hit : Hit) : Hit := if hit.score > best.score then hit else best

def size : Nat := index.names.size

/-- The stored vectors with the names beside them. -/
def entries : Array Entry := Array.zipWith Entry.mk index.names index.vectors

/-- The similarity of every vector to a query, with the name beside it. -/
def scores (query : Vector32) : Array Hit :=
  Array.zipWith (fun id vector => ⟨id, query.dot vector⟩) index.names index.vectors

/-- The nearest entry, or no name and zero if no similarity is above zero. -/
def nearest (query : Vector32) : Hit := (index.scores query).foldl better ⟨"", 0.0⟩

/-- The decision on a document whose nearest entry is known. -/
def judge (doc : EmbeddedDocument) (nearest : Hit) : Decision :=
  ⟨doc.id, nearest.score ≥ index.threshold, nearest.id, nearest.score⟩

def decide (doc : EmbeddedDocument) : Decision :=
  index.judge doc (index.nearest doc.embedding)

/-- The index with one more name and one more vector. -/
def store (doc : EmbeddedDocument) : Index :=
  { index with
    names := index.names.push doc.id
    vectors := index.vectors.push doc.embedding }

/-- The index after a document, with the decision: what is no duplicate is
stored. -/
def submit (doc : EmbeddedDocument) : Index × Decision :=
  let decision := index.decide doc
  if decision.isDuplicate then (index, decision) else (index.store doc, decision)

def ids : List String := index.names.toList

/-- The `k` entries most similar to the query, best first, of equal ones the
earlier first. Similarities that are numbers are in an order; with others among
them there is a ranking only as long as nothing shows that they are not. -/
def search? (query : Vector32) (k : Nat) : Option (List Hit) :=
  let hits := (index.scores query).toList
  let isBetter (a b : Hit) : Bool := a.score > b.score
  let ranked :=
    if hits.any (·.score.isNaN) then Ranking.rank? isBetter hits
    else some (Ranking.inserted isBetter [] hits)
  ranked.map (·.take k)

def describe : String :=
  "EmbeddingIndex \x7b len: " ++ Nat.repr index.size ++ ", dedup_threshold: "
    ++ diagnosticStyle.single index.threshold ++ " \x7d"

end Index

end DocSieve
