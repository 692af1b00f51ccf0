import DocSieve.Config.Reader
import DocSieve.Files.Tree
import DocSieve.Toml.Parser

/-!
# Configuration files

A configuration file is a TOML document. A file that is not there is not the
same as one that cannot be read.

Key definitions: `Config.ofToml`, `Config.ofFile`, `Config.ofFileIfExists`.
-/

namespace DocSieve

namespace Config

def ofTomlValue? (v : TomlValue) : Option Config := Config.read? tomlFormat v

def ofToml (text : String) : Except Fault Config :=
  match TomlValue.parse? text >>= ofTomlValue? with
  | some config => pure config
  | none => throw (.config .notToml)

/-- The configuration of a file. -/
def ofFile (files : FileTree) (path : String) : Except Fault Config := do
  ofToml (← files.readText path)

/-- There is no file where it was looked for. -/
def isMissing : Fault → Bool
  | .io cause => cause.kind = .notFound
  | _ => false

/-- The configuration of a file, none if there is no such file. -/
def ofFileIfExists (files : FileTree) (path : String) : Except Fault (Option Config) :=
  match ofFile files path with
  | .ok config => pure (some config)
  | .error fault => if isMissing fault then pure none else throw fault

end Config

end DocSieve
