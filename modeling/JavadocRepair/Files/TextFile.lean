import JavadocRepair.Files.Tree
import JavadocRepair.Text.Lines
import JavadocRepair.Text.Utf8

/-!
# Text files

A text file is read as the list of its lines. It is written as UTF-8 with a line feed behind every
line.
-/

namespace JavadocRepair

/-- Why a text file cannot be read. -/
inductive ReadFault where
  | openFault (fault : OpenFault)
  | decodeFault (fault : Text.Utf8.Fault)
  deriving Repr, DecidableEq

/-- The wording of a fault on reading the file at a path. -/
def ReadFault.message (path : String) : ReadFault → String
  | .openFault fault => fault.message path
  | .decodeFault fault => fault.message

/-- The lines that bytes encode. -/
def Text.linesOfBytes (bytes : List UInt8) : Except Text.Utf8.Fault (List String) :=
  match Text.Utf8.decode bytes with
  | .error fault => .error fault
  | .ok chars => .ok (Text.lines chars)

/-- The bytes that encode lines. -/
def Text.bytesOfLines (lines : List String) : List UInt8 :=
  Text.Utf8.encode (Text.unlines lines)

namespace FileTree

/-- The lines of the text file at a path. -/
def readLines (tree : FileTree) (path : String) : Except ReadFault (List String) :=
  match tree.read path with
  | .error fault => .error (.openFault fault)
  | .ok bytes =>
    match Text.linesOfBytes bytes with
    | .error fault => .error (.decodeFault fault)
    | .ok lines => .ok lines

/-- The tree after lines are written to the text file at a path. -/
def writeLines (tree : FileTree) (path : String) (lines : List String) :
    Except OpenFault FileTree :=
  tree.write path (Text.bytesOfLines lines)

end FileTree

end JavadocRepair
