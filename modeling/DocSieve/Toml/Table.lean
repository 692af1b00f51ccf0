import DocSieve.Toml.Basic

/-!
# Building tables

Each header opens a table or a further one of several, and each entry adds a
value under a dotted key. No value is given twice; a table is given one header
at most; a dotted key extends only tables that dotted keys made, and passes
only through such or those that deeper headers made.

Key definitions: `Toml.Entry`, `Toml.Section`, `Toml.assemble?`.
-/

namespace DocSieve

namespace Toml

/-- The members of a table. -/
abbrev Members := List (String × TomlValue)

/-- The members with the value of a name changed where it stands, or put at the
end. -/
def put (name : String) (value : TomlValue) : Members → Members
  | [] => [(name, value)]
  | (other, v) :: rest =>
    if name = other then (name, value) :: rest else (other, v) :: put name value rest

/-- The last of several tables changed. -/
def changeLast? (f : Members → Option Members) : List Members → Option (List Members)
  | [] => none
  | last :: earlier => do return (← f last) :: earlier

/-- The members with a value more, under a key with dots before its last part. -/
def insertDotted? (name : String) (value : TomlValue) :
    (path : List String) → Members → Option Members
  | [], members => if (List.lookup name members).isSome then none else some (members ++ [(name, value)])
  | step :: path, members =>
    match List.lookup step members with
    | none => do
      return put step (.table .dotted (← insertDotted? name value path [])) members
    | some (.table origin inner) =>
      if origin = .dotted || (origin = .implied && !path.isEmpty) then do
        return put step (.table origin (← insertDotted? name value path inner)) members
      else none
    | some (.tables elements) =>
      if path.isEmpty then none
      else do
        return put step (.tables (← changeLast? (insertDotted? name value path) elements)) members
    | some _ => none

/-- The members with the table at the end of a path changed; tables on the way
are made where they are missing, and of several the last is meant. -/
def changeAt? (f : Members → Option Members) : (path : List String) → Members → Option Members
  | [], members => f members
  | step :: path, members =>
    match List.lookup step members with
    | none => do return put step (.table .implied (← changeAt? f path [])) members
    | some (.table origin inner) =>
      if origin = .braces then none
      else do return put step (.table origin (← changeAt? f path inner)) members
    | some (.tables elements) => do
      return put step (.tables (← changeLast? (changeAt? f path) elements)) members
    | some _ => none

/-- A value under a dotted key. -/
structure Entry where
  path : List String
  name : String
  value : TomlValue

/-- A header: the path and the name of its table, and whether the table is one
more of several. -/
structure Header where
  path : List String
  name : String
  several : Bool

/-- A header with the entries under it. -/
structure Section where
  header : Header
  entries : List Entry

/-- The members with some entries more. -/
def insertAll? (entries : List Entry) (members : Members) : Option Members :=
  entries.foldlM (fun members e => insertDotted? e.name e.value e.path members) members

/-- The members of the table around a header with the table of the header. -/
def openTable? (s : Section) (members : Members) : Option Members :=
  let name := s.header.name
  if s.header.several then
    match List.lookup name members with
    | none => do return put name (.tables [← insertAll? s.entries []]) members
    | some (.tables elements) => do
      return put name (.tables ((← insertAll? s.entries []) :: elements)) members
    | some _ => none
  else
    match List.lookup name members with
    | none => do return put name (.table .header (← insertAll? s.entries [])) members
    | some (.table .implied inner) => do
      return put name (.table .header (← insertAll? s.entries inner)) members
    | some _ => none

/-- The document of the entries before the first header and the sections after
them. -/
def assemble? (entries : List Entry) (sections : List Section) : Option TomlValue := do
  let root ← insertAll? entries []
  let root ← sections.foldlM (fun root s => changeAt? (openTable? s) s.header.path root) root
  return .table .header root

end Toml

end DocSieve
