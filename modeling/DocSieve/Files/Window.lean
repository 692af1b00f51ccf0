import DocSieve.Document.Basic
import DocSieve.Embedding.Basic
import DocSieve.Files.Tree
import DocSieve.Text.Utf8

/-!
# Reading the window of a request

The bytes from the offset on are read, fewer than asked for where the file
ends before. First the file is opened, then the offset is looked at, then room
is made for the window, then it is read. A directory can be opened but only
nothing be read from it.

Key definitions: `windowBytes`, `FileTree.load`.
-/

namespace DocSieve

def windowBytes (bytes : List UInt8) (offset size : Nat) : List UInt8 :=
  (bytes.drop offset).take size

/-- The greatest offset of a file. -/
def maxOffset : Nat := 0x7fffffffffffffff

def FileTree.load (tree : FileTree) (request : Request) : Except Fault Document := do
  let opened ← tree.find request.path
  let offset := request.offset.toNat
  let size := request.size.toNat
  if offset > maxOffset then throw invalidArgument
  if size > maxAllocation then throw .oversize
  match opened with
  | .file bytes => return ⟨request.id, decodeLossy (windowBytes bytes offset size)⟩
  | .directory _ => if size = 0 then return ⟨request.id, ""⟩ else throw isADirectory

end DocSieve
