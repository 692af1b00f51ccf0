import DocSieve.Document.Basic
import DocSieve.Json.Format
import DocSieve.Text.Record

/-!
# Documents as JSON and as descriptions

The written forms of requests, documents, terms, vectors and decisions: a JSON
object with one member per field, read back from an object in any order or
from an array, and a description with the names of the fields.

Key definitions: `Request.toJson`, `Request.ofJson?`, `Request.describe`, and
the same for the other records.
-/

namespace DocSieve

namespace Request

def toJson (r : Request) : JsonValue :=
  .record [("id", .ofText r.id), ("file_path", .ofText r.path), ("offset", .ofWord r.offset),
    ("text_size", .ofWord r.size)]

def ofJson? (j : JsonValue) : Option Request :=
  match j.fields ["id", "file_path", "offset", "text_size"] with
  | some [some id, some path, some offset, some size] => do
    return ⟨← id.text?, ← path.text?, ← offset.word?, ← size.word?⟩
  | _ => none

def describe (r : Request) : String :=
  describeRecord "DataLoadingConfig" [("id", quoted r.id), ("file_path", quoted r.path),
    ("offset", describeWord r.offset), ("text_size", describeWord r.size)]

end Request

namespace Document

def toJson (d : Document) : JsonValue :=
  .record [("id", .ofText d.id), ("text", .ofText d.text)]

def ofJson? (j : JsonValue) : Option Document :=
  match j.fields ["id", "text"] with
  | some [some id, some text] => do return ⟨← id.text?, ← text.text?⟩
  | _ => none

def describe (d : Document) : String :=
  describeRecord "Document" [("id", quoted d.id), ("text", quoted d.text)]

end Document

namespace Token

def toJson (t : Token) : JsonValue := .record [("term", .ofText t.term)]

def ofJson? (j : JsonValue) : Option Token :=
  match j.fields ["term"] with
  | some [some term] => do return ⟨← term.text?⟩
  | _ => none

def describe (t : Token) : String := describeRecord "Token" [("term", quoted t.term)]

end Token

namespace TokenizedDocument

def toJson (d : TokenizedDocument) : JsonValue :=
  .record [("id", .ofText d.id), ("tokens", .array (d.tokens.map Token.toJson))]

def ofJson? (j : JsonValue) : Option TokenizedDocument :=
  match j.fields ["id", "tokens"] with
  | some [some id, some tokens] => do return ⟨← id.text?, ← tokens.items? Token.ofJson?⟩
  | _ => none

def describe (d : TokenizedDocument) : String :=
  describeRecord "TokenizedDoc" [("id", quoted d.id),
    ("tokens", describeList (d.tokens.map Token.describe))]

end TokenizedDocument

namespace EmbeddedDocument

def toJson (d : EmbeddedDocument) : JsonValue :=
  .record [("id", .ofText d.id), ("embedding", .array (d.embedding.toList.map .ofSingle))]

def ofJson? (j : JsonValue) : Option EmbeddedDocument :=
  match j.fields ["id", "embedding"] with
  | some [some id, some vector] => do
    return ⟨← id.text?, (← vector.items? JsonValue.single?).toArray⟩
  | _ => none

def describe (d : EmbeddedDocument) : String :=
  describeRecord "EmbeddedDoc" [("id", quoted d.id),
    ("embedding", describeList (d.embedding.toList.map diagnosticStyle.single))]

end EmbeddedDocument

namespace Decision

def toJson (d : Decision) : JsonValue :=
  .record [("id", .ofText d.id), ("is_duplicate", .bool d.isDuplicate),
    ("nearest_id", .ofText d.nearestId), ("similarity", .ofSingle d.similarity)]

def ofJson? (j : JsonValue) : Option Decision :=
  match j.fields ["id", "is_duplicate", "nearest_id", "similarity"] with
  | some [some id, some isDuplicate, some nearest, some similarity] => do
    return ⟨← id.text?, ← isDuplicate.bool?, ← nearest.text?, ← similarity.single?⟩
  | _ => none

def describe (d : Decision) : String :=
  describeRecord "DedupResult" [("id", quoted d.id), ("is_duplicate", describeBool d.isDuplicate),
    ("nearest_id", quoted d.nearestId), ("similarity", diagnosticStyle.single d.similarity)]

end Decision

end DocSieve
