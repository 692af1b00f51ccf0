import DocSieve.Fault.Basic

/-!
# A tree of files

Files are known by their paths from a directory, the names on the way being
separated by slashes. A path to nothing, through a file, or with a name that is
too long is answered by the fault of the operating system for it.

Key definitions: `FileTree`, `FileTree.find`, `FileTree.size`.
-/

namespace DocSieve

/-- A file or a directory. -/
inductive FileTree
  | file (bytes : List UInt8)
  | directory (entries : List (String × FileTree))

def noSuchFile : Fault := .io (.os 2)

/-- What should be a directory is a file. -/
def notADirectory : Fault := .io (.os 20)

/-- What should be a file is a directory. -/
def isADirectory : Fault := .io (.os 21)

/-- The offset is not allowed. -/
def invalidArgument : Fault := .io (.os 22)

def nameTooLong : Fault := .io (.os 36)

namespace FileTree

def empty : FileTree := .directory []

/-- The entries with one of them changed, or made. -/
def changeEntry (name : String) (f : Option FileTree → FileTree) :
    List (String × FileTree) → List (String × FileTree)
  | [] => [(name, f none)]
  | (other, t) :: rest =>
    if name = other then (other, f (some t)) :: rest else (other, t) :: changeEntry name f rest

/-- The tree with its end of some names changed, or made; directories on the way
are made. -/
def change (f : Option FileTree → FileTree) : (names : List String) → Option FileTree → FileTree
  | [], tree => f tree
  | name :: names, some (.directory entries) =>
    .directory (changeEntry name (change f names) entries)
  | name :: names, _ => .directory [(name, change f names none)]

/-- The names on a path. -/
def namesOf (path : String) : List String :=
  ((path.toList.splitBy fun a b => (a = '/') == (b = '/')).filter fun part => part.head? ≠ some '/').map
    String.ofList

/-- The entry that paths with a slash at their front start from. -/
def top : String := "/"

/-- The names on a path from the directory that the tree is. -/
def route (path : String) : List String :=
  if path.startsWith "/" then top :: namesOf path else namesOf path

/-- The entry that holds what lies above the directory that the tree is. -/
def above : String := ".."

/-- One more name behind others, the last one first. Going back from the top
leads to the top. -/
def follow (back : List String) (name : String) : List String :=
  if name = "." then back
  else if name ≠ ".." then name :: back
  else
    match back with
    | [] => [above]
    | last :: rest => if last = top then back else if last = above then above :: back else rest

/-- Where some names lead to, going back at the start only. -/
def resolve (names : List String) : List String := (names.foldl follow []).reverse

/-- The tree with a directory at the end of some names, where there is none. -/
def insertDirectory (tree : FileTree) (names : List String) : FileTree :=
  change (·.getD empty) (resolve names) (some tree)

/-- The tree with a file at a path, and with every directory on the way. -/
def insert (tree : FileTree) (path : String) (bytes : List UInt8) : FileTree :=
  let names := route path
  let ways := (List.range names.length).map (names.take ·)
  change (fun _ => .file bytes) (resolve names) (some (ways.foldl insertDirectory tree))

/-- A directory with files. -/
def ofList (files : List (String × List UInt8)) : FileTree :=
  files.foldl (fun tree (path, bytes) => tree.insert path bytes) empty

/-- The entry of a directory. -/
def entry? (name : String) : FileTree → Option FileTree
  | .file _ => none
  | .directory entries => List.lookup name entries

/-- The greatest length of a name in bytes. -/
def maxNameLength : Nat := 255

/-- The greatest length of a path in bytes. -/
def maxPathLength : Nat := 4095

/-- What lies above a directory to which no directories are known to lead: above
the top there is the top itself. -/
def parent (isTop : Bool) (tree : FileTree) : FileTree :=
  if isTop then tree else (tree.entry? above).getD empty

/-- The tree at the end of some names, and the directories that lead to it, the
nearest first. -/
def walk (isTop : Bool) (path : List FileTree) (tree : FileTree) :
    List String → Except Fault FileTree
  | [] => pure tree
  | name :: names =>
    match tree with
    | .file _ => throw notADirectory
    | .directory entries =>
      if name = "." then walk isTop path tree names
      else if name = ".." then
        match path with
        | last :: path => walk isTop path last names
        | [] => walk isTop [] (parent isTop tree) names
      else if name.utf8ByteSize > maxNameLength then throw nameTooLong
      else
        match List.lookup name entries with
        | some next => walk isTop (tree :: path) next names
        | none => throw noSuchFile

/-- The file or directory at a path. A path with a slash at its end leads to a
directory; one with a slash at its front starts from the top. Of the top, and of
what lies above the tree, nothing may be known. -/
def find (tree : FileTree) (path : String) : Except Fault FileTree := do
  if path.toList.contains '\x00' then throw (.io .nulInPath)
  if path.isEmpty then throw noSuchFile
  if path.utf8ByteSize > maxPathLength then throw nameTooLong
  let names := namesOf path
  let names := if path.endsWith "/" then names ++ ["."] else names
  if path.startsWith "/" then walk true [] ((tree.entry? top).getD empty) names
  else walk false [] tree names

/-- The bytes of the file at a path. -/
def read (tree : FileTree) (path : String) : Except Fault (List UInt8) := do
  match ← tree.find path with
  | .file bytes => pure bytes
  | .directory _ => throw isADirectory

/-- The bytes of the file at a path as a text. -/
def readText (tree : FileTree) (path : String) : Except Fault String := do
  let bytes ← tree.read path
  match String.fromUTF8? ⟨bytes.toArray⟩ with
  | some text => pure text
  | none => throw (.io .notUtf8)

/-- The size of a directory, of which nothing is promised. -/
def directorySize : UInt64 := 4096

def size (tree : FileTree) (path : String) : Except Fault UInt64 := do
  match ← tree.find path with
  | .file bytes => pure (UInt64.ofNat bytes.length)
  | .directory _ => pure directorySize

end FileTree

end DocSieve
