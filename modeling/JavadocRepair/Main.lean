import JavadocRepair.CommandLine.Basic

/-!
# The program

The program takes a picture of the files that its command line and its log name, carries out the
command on it, and writes the files that have changed. Of all characters it knows those of ASCII by
their names.
-/

namespace JavadocRepair.Program

/-- The text of a location. -/
def pathOf (location : Location) : String :=
  "/" ++ "/".intercalate location

/-- What stands at a location of the file system. A directory opens, but has no bytes to read. -/
def look (location : Location) : IO (Option Entry) := do
  try
    let bytes ← IO.FS.readBinFile (pathOf location)
    return some (.file bytes.toList)
  catch
    | .inappropriateType .. => return some .directory
    | _ => return none

/-- Adds what stands at a location to a picture. -/
def add (tree : FileTree) (location : Location) : IO FileTree := do
  if (tree.entryAt? location).isSome then return tree
  match ← look location with
  | none => return tree
  | some entry => return { tree with entries := tree.entries ++ [(location, entry)] }

/-- Adds what stands along steps to a picture. -/
def addAlong (tree : FileTree) (location : Location) : List Path.Step → IO FileTree
  | [] => return tree
  | .here :: rest => addAlong tree location rest
  | .up :: rest => addAlong tree location.dropLast rest
  | .down name :: rest => do
    let next := location ++ [name]
    addAlong (← add tree next) next rest

/-- Adds what stands along a path to a picture. -/
def addPath (tree : FileTree) (path : String) : IO FileTree :=
  addAlong tree (tree.start path) (Path.steps path)

/-- What the program finds where it runs. -/
def host : Host := .ascii

/-- A picture of the files that a command needs. -/
def picture (options : CommandLine.Options) : IO FileTree := do
  let directory := (← IO.currentDir).toString
  let location := Path.components directory
  let mut tree : FileTree := ⟨[], location⟩
  tree ← addAlong tree [] (location.map .down)
  tree ← addPath tree (Path.normal options.log)
  let mut matchers := Matcher.builtin
  if options.matchers ≠ "" then
    tree ← addPath tree (Path.normal options.matchers)
    if let .ok custom := Configuration.load host tree options.matchers none then
      matchers := custom
  for violation in (Log.scan tree (Path.normal options.log) matchers).violations do
    tree ← addPath tree violation.path
  return tree

/-- Writes the files of a tree that differ from those of a picture. -/
def writeChanges (picture tree : FileTree) : IO Unit := do
  for (location, entry) in tree.entries do
    if picture.entryAt? location ≠ some entry then
      if let .file bytes := entry then
        IO.FS.writeBinFile (pathOf location) bytes.toByteArray

/-- What is said about a failure that the outputs do not show yet. -/
def failureText : CommandLine.Failure → String
  | .stop _ => ""
  | .configuration fault => fault.message ++ "\n"
  | .run fault => fault.message ++ "\n"

end JavadocRepair.Program

open JavadocRepair in
/-- Carries out the command line. -/
def main (words : List String) : IO UInt32 := do
  let tree ←
    match CommandLine.parse words with
    | .ok options => Program.picture options
    | .error _ => pure ⟨[], []⟩
  let outcome := CommandLine.command Program.host tree words
  Program.writeChanges tree outcome.tree
  IO.print outcome.out
  IO.eprint outcome.err
  match outcome.failure with
  | none => return 0
  | some failure =>
    IO.eprint (Program.failureText failure)
    return failure.exitCode
