import JavadocRepair.Proofs.Files.TextFile
import JavadocRepair.Proofs.Text.LineEnds

/-!
# Text files that are written anew

Lines that are written to a file are read there again, if none of them holds a character that ends
lines, and only then. Writing what was read makes line feeds of all line ends and ends the last line;
it changes no other byte, and done once more it changes nothing.
-/

namespace JavadocRepair

variable {tree : FileTree} {path : String} {lines : List String} {chars : List Char}

/-- Lines are read as they are written if and only if no character in them ends a line. -/
theorem Text.linesOfBytes_bytesOfLines_iff :
    linesOfBytes (bytesOfLines lines) = .ok lines ↔ ∀ text ∈ lines, IsLine text.toList :=
  ⟨isLine_of_linesOfBytes, linesOfBytes_bytesOfLines⟩

/-- What is written for the lines of a text has the same lines. -/
theorem Text.linesOfBytes_normalBytes (chars : List Char) :
    linesOfBytes (normalBytes (Utf8.encode chars)) = .ok (Text.lines chars) := by
  rw [← bytesOfLines_lines]
  exact linesOfBytes_bytesOfLines fun _ => isLine_of_mem_lines

namespace FileTree

/-- What a path gives as bytes it gives as the lines of these bytes. -/
theorem readLines_eq_ok_iff_of_read {bytes : List UInt8} (readable : tree.read path = .ok bytes) :
    tree.readLines path = .ok lines ↔ Text.linesOfBytes bytes = .ok lines := by
  simp only [readLines, readable]
  cases Text.linesOfBytes bytes <;> simp

/-- Reading a text file and writing its lines to it makes line feeds of its line ends and ends its
    last line. The lines stay the same, and when they are written again nothing changes. -/
theorem exists_rewrite (readable : tree.read path = .ok (Text.Utf8.encode chars)) :
    ∃ after, tree.readLines path = .ok (Text.lines chars) ∧
      tree.writeLines path (Text.lines chars) = .ok after ∧
      after.read path = .ok (Text.normalBytes (Text.Utf8.encode chars)) ∧
      after.readLines path = .ok (Text.lines chars) ∧
      after.writeLines path (Text.lines chars) = .ok after := by
  rcases read_eq_ok_iff.1 readable with ⟨location, named, there⟩
  have written := write_of_locate? named (Text.bytesOfLines (Text.lines chars))
  have namedAfter : (tree.setFile location (Text.bytesOfLines (Text.lines chars))).locate? path =
      some location := (locate?_setFile there path).trans named
  have readableAfter : (tree.setFile location (Text.bytesOfLines (Text.lines chars))).read path =
      .ok (Text.normalBytes (Text.Utf8.encode chars)) := by
    rw [read_eq_ok_iff]
    refine ⟨location, namedAfter, ?_⟩
    rw [entryAt?_setFile there, if_pos rfl, Text.bytesOfLines_lines]
  refine ⟨_, ?_, written, readableAfter, ?_, ?_⟩
  · rw [readLines_eq_ok_iff_of_read readable]
    simp [Text.linesOfBytes]
  · rw [readLines_eq_ok_iff_of_read readableAfter, Text.linesOfBytes_normalBytes]
  · rw [writeLines, write_of_locate? namedAfter, setFile_setFile there]

/-- Whatever stood in a file before, lines that are written to it are read again if and only if none
    of them holds a line feed or a carriage return. Writing the lines of a text file back gives its
    bytes with a line feed for every pair of a carriage return and a line feed and for every other
    carriage return, and with one more at the end if there is a last line without an end. These
    bytes have the same lines, so writing them back once more changes nothing. -/
theorem readLines_writeLines (writable : tree.Writable path) :
    (∀ lines, ∃ after, tree.writeLines path lines = .ok after ∧
      (after.readLines path = .ok lines ↔
        ∀ text ∈ lines, '\n' ∉ text.toList ∧ '\r' ∉ text.toList)) ∧
    ∀ bytes chars, tree.read path = .ok bytes → Text.Utf8.decode bytes = .ok chars →
      ∃ lines after, tree.readLines path = .ok lines ∧ tree.writeLines path lines = .ok after ∧
        after.read path = .ok (Text.normalBytes bytes) ∧
        after.readLines path = .ok lines ∧ after.writeLines path lines = .ok after := by
  constructor
  · intro lines
    rcases exists_write writable (Text.bytesOfLines lines) with ⟨after, written, readable⟩
    refine ⟨after, written, ?_⟩
    rw [readLines_eq_ok_iff_of_read readable, Text.linesOfBytes_bytesOfLines_iff]
    rfl
  · intro bytes chars readable decoded
    obtain rfl := Text.Utf8.decode_eq_ok_iff.1 decoded
    rcases exists_rewrite readable with ⟨after, rewritten⟩
    exact ⟨Text.lines chars, after, rewritten⟩

/-- A file of which two lines end in different ways, one is empty, and the last has no end. -/
def mixedLineEnds : FileTree where
  entries := [(["A"], .file [0x78, 0x0d, 0x0a, 0x0d, 0x79])]
  workingDirectory := []

theorem readLines_writeLines_mixedLineEnds :
    mixedLineEnds.Writable "A" ∧ mixedLineEnds.Writable "new" ∧
    (∃ after, mixedLineEnds.writeLines "new" ["", "*"] = .ok after ∧
      after.readLines "new" = .ok ["", "*"]) ∧
    (∃ after, mixedLineEnds.writeLines "A" ["x\n"] = .ok after ∧
      after.readLines "A" ≠ .ok ["x\n"]) ∧
    Text.Utf8.decode [0x78, 0x0d, 0x0a, 0x0d, 0x79] = .ok "x\r\n\ry".toList ∧
    ∃ lines after, mixedLineEnds.readLines "A" = .ok lines ∧
      mixedLineEnds.writeLines "A" lines = .ok after ∧
      after.read "A" = .ok [0x78, 0x0a, 0x0a, 0x79, 0x0a] ∧
      after.writeLines "A" lines = .ok after := by
  have writable : mixedLineEnds.Writable "A" :=
    ⟨.file ["A"] [0x78, 0x0d, 0x0a, 0x0d, 0x79], by decide +kernel, by decide⟩
  have writableNew : mixedLineEnds.Writable "new" :=
    ⟨.absent ["new"], by decide +kernel, by decide⟩
  have decoded : Text.Utf8.decode [0x78, 0x0d, 0x0a, 0x0d, 0x79] = .ok "x\r\n\ry".toList := rfl
  rcases readLines_writeLines writable with ⟨each, rewritten⟩
  rcases (readLines_writeLines writableNew).1 ["", "*"] with ⟨new, written, same⟩
  rcases each ["x\n"] with ⟨changed, overwritten, other⟩
  rcases rewritten _ _ rfl decoded with ⟨lines, after, read, back, bytes, _, again⟩
  refine ⟨writable, writableNew, ⟨new, written, same.2 (by decide)⟩,
    ⟨changed, overwritten, ?_⟩, decoded, lines, after, read, back, bytes, again⟩
  rw [Ne, other]
  decide

end FileTree

end JavadocRepair
