import JavadocRepair.Files.Path
import JavadocRepair.Text.Quoted

/-!
# File trees

A tree holds files and directories at locations, which are lists of names from its root, and knows
the directory in which relative paths begin. A path is followed step by step: every step but the
last has to lead into a directory. Opening a file for reading gives its bytes; writing replaces the
bytes of a file or makes a new file in a directory that exists.
-/

namespace JavadocRepair

/-- The names that lead from the root to a place. -/
abbrev Location := List String

/-- What stands at a location. -/
inductive Entry where
  | file (bytes : List UInt8)
  | directory
  deriving Repr, DecidableEq

/-- Why a file cannot be opened. -/
inductive OpenFault where
  | notFound
  | notDirectory
  | isDirectory
  | nameTooLong
  | embeddedNull
  deriving Repr, DecidableEq

/-- The wording of a fault on opening a path. -/
def OpenFault.message (path : String) : OpenFault → String
  | .notFound => s!"[Errno 2] No such file or directory: {Text.quoted path}"
  | .notDirectory => s!"[Errno 20] Not a directory: {Text.quoted path}"
  | .isDirectory => s!"[Errno 21] Is a directory: {Text.quoted path}"
  | .nameTooLong => s!"[Errno 36] File name too long: {Text.quoted path}"
  | .embeddedNull => "embedded null byte"

/-- Files and directories by their locations, and the directory in which relative paths begin. The
    root is a directory without being listed. -/
structure FileTree where
  entries : List (Location × Entry)
  workingDirectory : Location
  deriving Repr, DecidableEq

/-- Where a path leads. `absent` is a new name in a directory that exists. -/
inductive Target where
  | directory
  | file (location : Location) (bytes : List UInt8)
  | absent (location : Location)
  deriving Repr, DecidableEq

namespace FileTree

/-- What stands at a location. -/
def entryAt? (tree : FileTree) (location : Location) : Option Entry :=
  if location = [] then some .directory else tree.entries.lookup location

/-- Puts a file at a location, in the place of the one that may be there. -/
def setFile (tree : FileTree) (location : Location) (bytes : List UInt8) : FileTree :=
  if (tree.entries.lookup location).isSome then
    { tree with
      entries := tree.entries.map fun entry =>
        if entry.1 = location then (location, .file bytes) else entry }
  else { tree with entries := tree.entries ++ [(location, .file bytes)] }

/-- Follows steps from a location. -/
def follow (tree : FileTree) (location : Location) : List Path.Step → Except OpenFault Target
  | [] =>
    match tree.entryAt? location with
    | some .directory => .ok .directory
    | some (.file bytes) => .ok (.file location bytes)
    | none => .error .notFound
  | step :: rest =>
    match tree.entryAt? location with
    | some .directory =>
      match step with
      | .here => tree.follow location rest
      | .up => tree.follow location.dropLast rest
      | .down name =>
        if Path.maxNameBytes < name.utf8ByteSize then .error .nameTooLong
        else
          let next := location ++ [name]
          match tree.entryAt? next with
          | some _ => tree.follow next rest
          | none => if rest = [] then .ok (.absent next) else .error .notFound
    | _ => .error .notDirectory

/-- Where steps begin. -/
def start (tree : FileTree) (path : String) : Location :=
  if Path.isAbsolute path then [] else tree.workingDirectory

/-- What is wrong with a path before any directory is looked at. -/
def pathFault? (path : String) : Option OpenFault :=
  if path.toList.contains '\x00' then some .embeddedNull
  else if path = "" then some .notFound
  else if Path.pathBytesLimit ≤ path.utf8ByteSize then some .nameTooLong
  else none

/-- Where a path leads. -/
def resolve (tree : FileTree) (path : String) : Except OpenFault Target :=
  match pathFault? path with
  | some fault => .error fault
  | none => tree.follow (tree.start path) (Path.allSteps path)

/-- The bytes of the file that a path leads to. -/
def read (tree : FileTree) (path : String) : Except OpenFault (List UInt8) :=
  match tree.resolve path with
  | .error fault => .error fault
  | .ok .directory => .error .isDirectory
  | .ok (.absent _) => .error .notFound
  | .ok (.file _ bytes) => .ok bytes

/-- A path that ends with a slash behind a name: no file can be written there, and which fault it
    is depends on the directory in front. -/
def slashFault? (tree : FileTree) (path : String) : Option OpenFault :=
  match (Path.steps path).getLast? with
  | some (.down _) =>
    if Path.endsWithSlash path then
      match tree.follow (tree.start path) ((Path.steps path).dropLast ++ [.here]) with
      | .error fault => some fault
      | .ok _ => some .isDirectory
    else none
  | _ => none

/-- The tree after bytes are written to the file that a path leads to. -/
def write (tree : FileTree) (path : String) (bytes : List UInt8) : Except OpenFault FileTree :=
  match pathFault? path, tree.slashFault? path with
  | some fault, _ => .error fault
  | none, some fault => .error fault
  | none, none =>
    match tree.resolve path with
    | .error fault => .error fault
    | .ok .directory => .error .isDirectory
    | .ok (.absent location) => .ok (tree.setFile location bytes)
    | .ok (.file location _) => .ok (tree.setFile location bytes)

end FileTree

end JavadocRepair
