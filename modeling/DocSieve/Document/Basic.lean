import DocSieve.Embedding.Vector

/-!
# Documents on their way

A request names a byte window of a file. Reading it gives a document,
splitting that a list of terms, hashing those a vector, and comparing that
with the vectors before it a decision.

Key definitions: `Request`, `Document`, `TokenizedDocument`,
`EmbeddedDocument`, `Decision`.
-/

namespace DocSieve

/-- A request to read at most `size` bytes of a file from `offset` on. -/
structure Request where
  id : String
  path : String
  offset : UInt64
  size : UInt64
  deriving DecidableEq, Repr

/-- The text that was read for a request. -/
structure Document where
  id : String
  text : String
  deriving DecidableEq, Repr

/-- A term of a document. -/
structure Token where
  term : String
  deriving DecidableEq, Repr

/-- The terms of a document, in the order of the text. -/
structure TokenizedDocument where
  id : String
  tokens : List Token
  deriving DecidableEq, Repr

/-- The vector of a document. -/
structure EmbeddedDocument where
  id : String
  embedding : Vector32

/-- Whether a document repeats a stored one, and which one is nearest. -/
structure Decision where
  id : String
  isDuplicate : Bool
  /-- Empty when no stored document has a similarity above zero. -/
  nearestId : String
  similarity : Float32

end DocSieve
