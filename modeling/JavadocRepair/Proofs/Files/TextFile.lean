import JavadocRepair.Files.TextFile
import JavadocRepair.Proofs.Files.Tree
import JavadocRepair.Proofs.Text.Lines
import JavadocRepair.Proofs.Text.Utf8

/-!
# Text files after they are written

Lines that are written are read as they were, and reading a path gives the lines of the file that
the path names.
-/

namespace JavadocRepair

theorem Text.linesOfBytes_eq_ok_iff {bytes : List UInt8} {lines : List String} :
    linesOfBytes bytes = .ok lines ↔
      ∃ chars, Utf8.decode bytes = .ok chars ∧ lines = Text.lines chars := by
  unfold linesOfBytes
  cases Utf8.decode bytes <;> simp [eq_comm]

theorem Text.linesOfBytes_eq_error_iff {bytes : List UInt8} {fault : Utf8.Fault} :
    linesOfBytes bytes = .error fault ↔ Utf8.decode bytes = .error fault := by
  unfold linesOfBytes
  cases Utf8.decode bytes <;> simp

/-- No line that is read holds a character that ends lines. -/
theorem Text.isLine_of_linesOfBytes {bytes : List UInt8} {lines : List String}
    (read : linesOfBytes bytes = .ok lines) : ∀ text ∈ lines, IsLine text.toList := by
  unfold linesOfBytes at read
  split at read
  · cases read
  · cases read
    intro text member
    exact isLine_of_mem_lines member

/-- Lines that are written are read as they were. -/
theorem Text.linesOfBytes_bytesOfLines {lines : List String}
    (each : ∀ text ∈ lines, IsLine text.toList) :
    linesOfBytes (bytesOfLines lines) = .ok lines := by
  simp [linesOfBytes, bytesOfLines, lines_unlines each]

namespace FileTree

variable {tree : FileTree} {location : Location} {path : String} {lines : List String}

/-- The lines of the text file at a location. -/
def linesAt? (tree : FileTree) (location : Location) : Option (List String) :=
  match tree.entryAt? location with
  | some (.file bytes) => (Text.linesOfBytes bytes).toOption
  | _ => none

theorem linesAt?_eq_some_iff :
    tree.linesAt? location = some lines ↔
      ∃ bytes, tree.entryAt? location = some (.file bytes) ∧
        Text.linesOfBytes bytes = .ok lines := by
  unfold linesAt?
  split
  · next bytes there =>
    cases read : Text.linesOfBytes bytes <;> simp [there, read, Except.toOption]
  · next other =>
    constructor
    · intro found
      cases found
    · intro found
      rcases found with ⟨bytes, there, _⟩
      exact absurd there (other bytes)

/-- Reading a path gives the lines of the file that it names. -/
theorem readLines_eq_ok_iff :
    tree.readLines path = .ok lines ↔
      ∃ location, tree.locate? path = some location ∧ tree.linesAt? location = some lines := by
  constructor
  · intro read
    unfold readLines at read
    split at read
    · cases read
    · next bytes readable =>
      rcases read_eq_ok_iff.1 readable with ⟨location, named, there⟩
      split at read
      · cases read
      · next found =>
        cases read
        exact ⟨location, named, linesAt?_eq_some_iff.2 ⟨bytes, there, found⟩⟩
  · intro found
    rcases found with ⟨location, named, found⟩
    rcases linesAt?_eq_some_iff.1 found with ⟨bytes, there, read⟩
    have readable := read_eq_ok_iff.2 ⟨location, named, there⟩
    simp [readLines, readable, read]

theorem exists_decoded_of_readLines (read : tree.readLines path = .ok lines) :
    ∃ bytes chars, tree.read path = .ok bytes ∧ Text.Utf8.decode bytes = .ok chars ∧
      lines = Text.lines chars := by
  rcases readLines_eq_ok_iff.1 read with ⟨location, named, found⟩
  rcases linesAt?_eq_some_iff.1 found with ⟨bytes, there, decodes⟩
  rcases Text.linesOfBytes_eq_ok_iff.1 decodes with ⟨chars, decoded, same⟩
  exact ⟨bytes, chars, read_eq_ok_iff.2 ⟨location, named, there⟩, decoded, same⟩

/-- A path gives no lines if it cannot be opened or if its bytes are no text. -/
theorem readLines_eq_error_iff {fault : ReadFault} :
    tree.readLines path = .error fault ↔
      (∃ openFault, tree.read path = .error openFault ∧ fault = .openFault openFault) ∨
      ∃ bytes decodeFault, tree.read path = .ok bytes ∧
        Text.Utf8.decode bytes = .error decodeFault ∧ fault = .decodeFault decodeFault := by
  unfold readLines
  cases tree.read path with
  | error openFault => simp [eq_comm]
  | ok bytes =>
    cases read : Text.linesOfBytes bytes with
    | error decodeFault => simp [read, Text.linesOfBytes_eq_error_iff.1 read, eq_comm]
    | ok lines =>
      rcases Text.linesOfBytes_eq_ok_iff.1 read with ⟨chars, decoded, _⟩
      simp [read, decoded]

end FileTree

end JavadocRepair
