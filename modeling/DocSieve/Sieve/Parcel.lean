import DocSieve.Chain.Stage
import DocSieve.Files.Window
import DocSieve.Sieve.Collection
import DocSieve.Text.Terms

/-!
# What the stages of a sieve do

A parcel is a document in one of its forms, from the request to the decision.
Each stage turns one form into the next; a parcel in another form is dropped.
Only the last stage looks at the collection, and only it changes it.

Key definitions: `Parcel`, `Parcel.load`, `Parcel.tokenize`, `Parcel.embed`,
`Parcel.submit`.
-/

namespace DocSieve

/-- A document in one of its forms. -/
inductive Parcel
  | request (request : Request)
  | document (doc : Document)
  | tokenized (doc : TokenizedDocument)
  | embedded (doc : EmbeddedDocument)
  | decided (decision : Decision)

/-- A fault drops the item, and one that asks for too much memory breaks off
the transform. -/
def Outcome.ofExcept {α β : Type} (wrap : α → β) : Except Fault α → Outcome β
  | .ok a => .done (wrap a)
  | .error .oversize => .crashed
  | .error _ => .failed

namespace Parcel

def load (files : FileTree) : Parcel → Outcome Parcel
  | .request r => .ofExcept .document (files.load r)
  | _ => .failed

def tokenize : Parcel → Outcome Parcel
  | .document doc => .done (.tokenized doc.tokenize)
  | _ => .failed

def embed (embedder : Embedder) : Parcel → Outcome Parcel
  | .tokenized doc => .ofExcept .embedded (embedder.embedDocument doc)
  | _ => .failed

/-- The decision on a vector. -/
def submit (c : Collection) : Parcel → Collection × Outcome Parcel
  | .embedded doc =>
    let (c, decision) := c.submit doc
    (c, .done (.decided decision))
  | _ => (c, .failed)

/-- The request of a parcel that is one. -/
def request? : Parcel → Option Request
  | .request r => some r
  | _ => none

end Parcel

end DocSieve
