import DocSieve.CommandLine.Run

/-!
# The program

Reads the environment, the configuration file and the file to sample, runs the
command line on them, prints the results and tells the events on standard error.
A result that cannot be printed counts as the first one for which there is no
room.

Key definitions: `main`.
-/

namespace DocSieve

/-- The number by which the operating system tells that a file is a directory. -/
def directoryCode : UInt32 := 21

/-- The tree with what is at a path, if it can be read. -/
def readInto (files : FileTree) (path : String) : IO FileTree := do
  try
    let bytes ← IO.FS.readBinFile path
    return files.insert path bytes.toList
  catch fault =>
    match fault with
    | .inappropriateType _ code _ =>
      return if code = directoryCode then files.insertDirectory (FileTree.route path) else files
    | _ => return files

/-- The files that a run reads, the second one named in the first. -/
def readFiles (arguments : List String) (env : Environment) : IO FileTree := do
  match Flags.parse arguments with
  | .error _ => return .empty
  | .ok flags =>
    let path := flags.configPath env
    let files ← readInto .empty path
    match Config.ofFileIfExists files path with
    | .error _ => return files
    | .ok found => readInto files (flags.apply (found.getD .default)).load.filePath

/-- Random words. -/
def drawWords : IO WordStream := do
  let bytes ← IO.getRandomBytes 8
  return seededWords (UInt64.ofNat (bytes.toList.foldl (fun n b => 256 * n + b.toNat) 0))

/-- Print lines until one cannot be; their number. -/
def printLines (lines : List String) : IO (Option Nat) := do
  let output ← IO.getStdout
  let mut printed := 0
  for line in lines do
    try
      output.putStr (line ++ "\n")
      output.flush
      printed := printed + 1
    catch _ => return some printed
  return none

end DocSieve

open DocSieve in
def main (arguments : List String) : IO UInt32 := do
  let env : Environment := ⟨← IO.getEnv configVariable, ← IO.getEnv logVariable⟩
  let around : Surroundings := ⟨env, ← readFiles arguments env, ← drawWords, none⟩
  let report := run arguments around
  let room ← printLines ((report.output.splitOn "\n").dropLast)
  let report := if room.isSome then run arguments { around with room } else report
  for event in report.log do IO.eprintln event.line
  for line in report.ending.failureLine? do IO.eprintln line
  return report.ending.exitCode
