import JavadocRepair.Proofs.Files.Path
import JavadocRepair.Proofs.Repair.History
import JavadocRepair.Proofs.Text.LineEnds

/-!
# One violation, byte by byte

A violation that can be applied puts one line into its file, where the reported line begins, and
changes nothing else. If it cannot be applied, the first check that fails is the cause, and nothing
is changed at all: whatever can be read can be written, so nothing fails once writing has begun. The
cause names the number of a line that is not there, unless that number is too large to be written.
-/

namespace JavadocRepair.FileTree

variable {tree after : FileTree} {violation : Violation} {inserted : String}

/-! ## Sites -/

/-- The place where a violation can be applied: its path leads to a file, the bytes of the file are
    a text, and the text has a line before the reported one, which has an asterisk. -/
structure Site (tree : FileTree) (violation : Violation) where
  location : Location
  bytes : List UInt8
  chars : List Char
  line : String
  named : tree.locate? violation.path = some location
  there : tree.entryAt? location = some (.file bytes)
  decoded : Text.Utf8.decode bytes = .ok chars
  least : 2 ≤ violation.lineNumber
  most : violation.lineNumber ≤ (Text.lines chars).length + 1
  previous : (Text.lines chars)[violation.lineNumber - 2]? = some line
  asterisk : '*' ∈ line.toList

namespace Site

/-- The lines of the file before the reported one. -/
def front (site : tree.Site violation) : List String :=
  (Text.lines site.chars).take (violation.lineNumber - 1)

/-- The lines of the file from the reported one on. -/
def back (site : tree.Site violation) : List String :=
  (Text.lines site.chars).drop (violation.lineNumber - 1)

theorem front_append_back (site : tree.Site violation) :
    site.front ++ site.back = Text.lines site.chars :=
  List.take_append_drop _ _

theorem linesAt?_eq (site : tree.Site violation) :
    tree.linesAt? site.location = some (Text.lines site.chars) :=
  linesAt?_eq_some_iff.2
    ⟨site.bytes, site.there, Text.linesOfBytes_eq_ok_iff.2 ⟨site.chars, site.decoded, rfl⟩⟩

theorem length_front (site : tree.Site violation) :
    site.front.length = violation.lineNumber - 1 := by
  have most := site.most
  rw [front, List.length_take]
  omega

/-- What applying a violation at its site leaves: the blank line of the line before stands between
    the lines that were there, and nothing else has changed. In a file whose lines all end in a line
    feed it is between the bytes that were there. -/
structure Applied (site : tree.Site violation) (after : FileTree) (inserted : String) : Prop where
  blank : Comment.blankLine site.line = .ok inserted
  edited : Comment.insertBlankLine (Text.lines site.chars) violation.lineNumber =
    .ok (site.front ++ inserted :: site.back)
  shown : (site.front ++ inserted :: site.back)[violation.lineNumber - 1]? = some inserted
  locate? : ∀ path, after.locate? path = tree.locate? path
  entryAt? : ∀ other, after.entryAt? other =
    if other = site.location then
      some (.file (Text.bytesOfLines (site.front ++ inserted :: site.back)))
    else tree.entryAt? other
  contiguous : site.bytes.getLast? = some 0x0a → 0x0d ∉ site.bytes →
    site.bytes = Text.bytesOfLines site.front ++ Text.bytesOfLines site.back ∧
    Text.bytesOfLines (site.front ++ inserted :: site.back) =
      Text.bytesOfLines site.front ++ (Text.Utf8.encode inserted.toList ++ [0x0a]) ++
        Text.bytesOfLines site.back

theorem insertBlankLine_lines (site : tree.Site violation) :
    Comment.insertBlankLine (Text.lines site.chars) violation.lineNumber =
      .ok (site.front ++ Comment.blankOf site.line :: site.back) := by
  have least := site.least
  refine Comment.insertBlankLine_eq_ok_iff.2
    ⟨violation.lineNumber - 2, site.line, by omega, site.previous, site.asterisk, ?_⟩
  -- the index of the insertion is where the lines are cut, so it goes in front of the second part
  have index : violation.lineNumber - 2 + 1 = site.front.length + 0 := by
    rw [site.length_front]
    omega
  rw [index, ← site.front_append_back, Comment.insertIdx_append_right, List.insertIdx_zero]

/-- The bytes of a file whose lines all end in a line feed are those of its lines. -/
theorem bytes_eq (site : tree.Site violation) (ends : site.bytes.getLast? = some 0x0a)
    (noReturn : 0x0d ∉ site.bytes) :
    site.bytes = Text.bytesOfLines site.front ++ Text.bytesOfLines site.back := by
  rw [← Text.bytesOfLines_append, site.front_append_back, Text.bytesOfLines_lines,
    ← Text.Utf8.decode_eq_ok_iff.1 site.decoded, Text.normalBytes_of_feeds noReturn ends]

theorem applied (site : tree.Site violation) :
    ∃ after, tree.apply violation = .ok (after, Comment.blankOf site.line) ∧
      site.Applied after (Comment.blankOf site.line) := by
  have edited := site.insertBlankLine_lines
  have shown : (site.front ++ Comment.blankOf site.line :: site.back)[violation.lineNumber - 1]? =
      some (Comment.blankOf site.line) := by
    rw [← site.length_front, List.getElem?_append_right (Nat.le_refl _), Nat.sub_self,
      List.getElem?_cons_zero]
  refine ⟨_, apply_eq_ok_iff.2
    ⟨site.location, _, _, site.named, site.linesAt?_eq, edited, rfl, shown⟩, ?_⟩
  refine ⟨Comment.blankLine_eq_ok_iff.2 ⟨site.asterisk, rfl⟩, edited, shown,
    locate?_setFile site.there, entryAt?_setFile site.there, ?_⟩
  intro ends noReturn
  refine ⟨site.bytes_eq ends noReturn, ?_⟩
  rw [← String.ofList_toList (s := Comment.blankOf site.line), Text.bytesOfLines_append,
    Text.bytesOfLines_cons]
  simp

end Site

theorem nonempty_site_iff : Nonempty (tree.Site violation) ↔ tree.Applicable violation := by
  constructor
  · rintro ⟨site⟩
    have read := readLines_eq_ok_iff.2 ⟨site.location, site.named, site.linesAt?_eq⟩
    exact ⟨_, site.line, read, site.least, site.most, site.previous, site.asterisk⟩
  · rintro ⟨lines, line, read, least, most, previous, asterisk⟩
    rcases readLines_eq_ok_iff.1 read with ⟨location, named, found⟩
    rcases linesAt?_eq_some_iff.1 found with ⟨bytes, there, decodes⟩
    rcases Text.linesOfBytes_eq_ok_iff.1 decodes with ⟨chars, decoded, rfl⟩
    exact ⟨⟨location, bytes, chars, line, named, there, decoded, least, most, previous, asterisk⟩⟩

/-! ## Failures -/

/-- The first check that a violation fails: its path cannot be opened, the file is no text, the text
    has no line before the reported one, or that line has no asterisk. A number without a line before
    it may be too large to be named. -/
inductive FirstFailure (tree : FileTree) (violation : Violation) : PatchCause → Prop
  | unopened {fault : OpenFault} (failed : tree.read violation.path = .error fault) :
      FirstFailure tree violation (.unreadable (.openFault fault))
  | undecodable {bytes : List UInt8} {fault : Text.Utf8.Fault}
      (readable : tree.read violation.path = .ok bytes)
      (failed : Text.Utf8.decode bytes = .error fault) :
      FirstFailure tree violation (.unreadable (.decodeFault fault))
  | noPrecedingLine {bytes : List UInt8} {chars : List Char}
      (readable : tree.read violation.path = .ok bytes)
      (decoded : Text.Utf8.decode bytes = .ok chars)
      (outside : violation.lineNumber < 2 ∨
        (Text.lines chars).length + 1 < violation.lineNumber)
      (small : violation.lineNumber < Number.tooLarge) :
      FirstFailure tree violation
        (.edit (.noPrecedingLine violation.lineNumber (Text.lines chars).length))
  | numberTooLarge {bytes : List UInt8} {chars : List Char}
      (readable : tree.read violation.path = .ok bytes)
      (decoded : Text.Utf8.decode bytes = .ok chars)
      (outside : violation.lineNumber < 2 ∨
        (Text.lines chars).length + 1 < violation.lineNumber)
      (large : Number.tooLarge ≤ violation.lineNumber) :
      FirstFailure tree violation (.edit .numberTooLarge)
  | noAsterisk {bytes : List UInt8} {chars : List Char} {line : String}
      (readable : tree.read violation.path = .ok bytes)
      (decoded : Text.Utf8.decode bytes = .ok chars) (least : 2 ≤ violation.lineNumber)
      (previous : (Text.lines chars)[violation.lineNumber - 2]? = some line)
      (bare : '*' ∉ line.toList) :
      FirstFailure tree violation (.edit (.noAsterisk line))

theorem Obstacle.firstFailure {cause : PatchCause} (obstacle : tree.Obstacle violation cause) :
    tree.FirstFailure violation cause := by
  cases obstacle with
  | unreadable unread =>
    rcases readLines_eq_error_iff.1 unread with ⟨_, failed, rfl⟩ | ⟨_, _, readable, failed, rfl⟩
    · exact .unopened failed
    · exact .undecodable readable failed
  | noPrecedingLine read outside =>
    rcases exists_decoded_of_readLines read with ⟨bytes, chars, readable, decoded, rfl⟩
    rcases Comment.Fault.outside_cases violation.lineNumber (Text.lines chars).length with
      ⟨small, named⟩ | ⟨large, named⟩
    · rw [named]
      exact .noPrecedingLine readable decoded outside small
    · rw [named]
      exact .numberTooLarge readable decoded outside large
  | noAsterisk read least previous bare =>
    rcases exists_decoded_of_readLines read with ⟨bytes, chars, readable, decoded, rfl⟩
    exact .noAsterisk readable decoded least previous bare

/-- A violation is applied if and only if it has a site, and then it changes the file there and
    nothing else: the blank line is put between the lines, and this very line is reported. In every
    other case it fails on its own path with the first check that fails, and the tree stays as it
    was. Opening its path fails for a null character if and only if there is one in it. -/
theorem apply_allOrNothing (tree : FileTree) (violation : Violation) :
    ((∃ result, tree.apply violation = .ok result) ↔ Nonempty (tree.Site violation)) ∧
    (∀ site : tree.Site violation, ∃ after inserted,
      tree.apply violation = .ok (after, inserted) ∧ site.Applied after inserted) ∧
    (IsEmpty (tree.Site violation) → ∃ cause,
      tree.apply violation = .error ⟨violation.path, cause⟩ ∧
        tree.FirstFailure violation cause ∧ tree.perform (.apply violation) = (tree, [])) ∧
    (tree.read violation.path = .error .embeddedNull ↔ '\x00' ∈ violation.path.toList) := by
  refine ⟨exists_apply_iff.trans nonempty_site_iff.symm, ?_, ?_, read_eq_embeddedNull_iff⟩
  · intro site
    rcases site.applied with ⟨after, applied, whole⟩
    exact ⟨after, _, applied, whole⟩
  · intro nowhere
    cases attempt : tree.apply violation with
    | ok result =>
      have somewhere := nonempty_site_iff.2 (exists_apply_iff.1 ⟨result, attempt⟩)
      exact absurd somewhere (not_nonempty_iff.2 nowhere)
    | error fault =>
      rcases fault with ⟨path, cause⟩
      rcases apply_eq_error_iff.1 attempt with ⟨rfl, obstacle⟩
      exact ⟨cause, rfl, obstacle.firstFailure, by rw [perform, attempt]⟩

/-- A file with an asterisk in the first of its two lines, and a file that is no text. -/
def oneAsterisk : FileTree where
  entries := [(["A"], .file (Text.bytesOfLines [" * a", "b"])), (["B"], .file [0xff])]
  workingDirectory := []

/-- Paths and line numbers of violations without a site: the line before has no asterisk or is not
    there, the file is no text, or the path has a null character. -/
def siteless : List (String × Nat) :=
  [("A", 3), ("A", 9), ("B", 2), ("\x00", 2)]

theorem apply_allOrNothing_oneAsterisk :
    (∃ site : oneAsterisk.Site ⟨"./A", 2, by decide⟩, ∃ after inserted,
      oneAsterisk.apply ⟨"./A", 2, by decide⟩ = .ok (after, inserted) ∧
        site.Applied after inserted ∧
        site.bytes = Text.bytesOfLines site.front ++ Text.bytesOfLines site.back) ∧
    (∀ violation : Violation, (violation.path, violation.lineNumber) ∈ siteless → ∃ cause,
      oneAsterisk.apply violation = .error ⟨violation.path, cause⟩ ∧
        oneAsterisk.FirstFailure violation cause ∧
        oneAsterisk.perform (.apply violation) = (oneAsterisk, [])) ∧
    oneAsterisk.read "\x00" = .error .embeddedNull := by
  refine ⟨?_, ?_, ?_⟩
  · let site : oneAsterisk.Site ⟨"./A", 2, by decide⟩ :=
      ⟨["A"], Text.bytesOfLines [" * a", "b"], " * a\nb\n".toList, " * a", rfl, rfl,
        Text.Utf8.decode_encode _, by decide, by decide, by decide, by decide⟩
    rcases (apply_allOrNothing oneAsterisk ⟨"./A", 2, by decide⟩).2.1 site with
      ⟨after, inserted, applied, whole⟩
    have feeds : site.bytes.getLast? = some 0x0a ∧ 0x0d ∉ site.bytes := by decide +kernel
    exact ⟨site, after, inserted, applied, whole, (whole.contiguous feeds.1 feeds.2).1⟩
  · rintro ⟨path, lineNumber, positive⟩ member
    have failed : ∀ place ∈ siteless, ∀ positive : 1 ≤ place.2,
        (oneAsterisk.apply ⟨place.1, place.2, positive⟩).toOption = none := by decide +kernel
    rcases apply_allOrNothing oneAsterisk ⟨path, lineNumber, positive⟩ with
      ⟨success, _, failure, _⟩
    refine failure (not_nonempty_iff.1 ?_)
    intro somewhere
    rcases success.2 somewhere with ⟨result, applied⟩
    have nothing := failed _ member positive
    rw [applied] at nothing
    cases nothing
  · exact (apply_allOrNothing oneAsterisk ⟨"\x00", 2, by decide⟩).2.2.2.2 (by decide)

/-- Not every violation in a line that has no line before it fails with the number of that line. -/
theorem exists_apply_numberTooLarge :
    ¬∀ (tree : FileTree) (violation : Violation) (lines : List String),
      tree.readLines violation.path = .ok lines →
      violation.lineNumber < 2 ∨ lines.length + 1 < violation.lineNumber →
      tree.apply violation = .error ⟨violation.path,
        .edit (.noPrecedingLine violation.lineNumber lines.length)⟩ := by
  intro named
  have positive : 1 ≤ Number.tooLarge := by decide +kernel
  have outside : 2 + 1 < Number.tooLarge := by decide +kernel
  have read : oneAsterisk.readLines "A" = .ok [" * a", "b"] := rfl
  have refused : Comment.insertBlankLine [" * a", "b"] Number.tooLarge = .error .numberTooLarge :=
    Comment.insertBlankLine_of_tooLarge (.inr (by exact_mod_cast outside)) (Nat.le_refl _)
  have failed := named oneAsterisk ⟨"A", Number.tooLarge, positive⟩ _ read (.inr outside)
  rw [apply_of_error read refused] at failed
  cases failed

end JavadocRepair.FileTree
