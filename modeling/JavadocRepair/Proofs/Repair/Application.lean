import JavadocRepair.Proofs.Comment
import JavadocRepair.Proofs.Files.TextFile
import JavadocRepair.Repair

/-!
# Applying violations

A violation is applied to the file that its path names: the file gets one more line, every path
names what it named before, and what is not at the location of the file stays as it was.
-/

namespace JavadocRepair

namespace FileTree

variable {tree after : FileTree} {violation : Violation} {inserted : String}

/-- A violation that can be applied: its path leads to a text file with a line before the reported
    one, and that line has an asterisk. -/
def Applicable (tree : FileTree) (violation : Violation) : Prop :=
  ∃ lines line, tree.readLines violation.path = .ok lines ∧
    2 ≤ violation.lineNumber ∧ violation.lineNumber ≤ lines.length + 1 ∧
    lines[violation.lineNumber - 2]? = some line ∧ '*' ∈ line.toList

theorem apply_of_error {lines : List String} {fault : Comment.Fault}
    (read : tree.readLines violation.path = .ok lines)
    (refused : Comment.insertBlankLine lines violation.lineNumber = .error fault) :
    tree.apply violation = .error ⟨violation.path, .edit fault⟩ := by
  simp only [apply, read]
  split
  · next other edited =>
    cases refused.symm.trans edited
    rfl
  · next patched edited => cases refused.symm.trans edited

/-- Whatever could be read can be written. -/
theorem apply_of_ok {location : Location} {lines patched : List String}
    (named : tree.locate? violation.path = some location)
    (found : tree.linesAt? location = some lines)
    (edited : Comment.insertBlankLine lines violation.lineNumber = .ok patched) :
    ∃ inserted, patched[violation.lineNumber - 1]? = some inserted ∧
      tree.apply violation =
        .ok (tree.setFile location (Text.bytesOfLines patched), inserted) := by
  have read := readLines_eq_ok_iff.2 ⟨location, named, found⟩
  simp only [apply, read, writeLines, write_of_locate? named]
  split
  · next fault refused => cases edited.symm.trans refused
  · next other same =>
    cases edited.symm.trans same
    exact ⟨_, List.getElem?_eq_getElem _, rfl⟩

theorem apply_eq_ok_iff :
    tree.apply violation = .ok (after, inserted) ↔
      ∃ location lines patched, tree.locate? violation.path = some location ∧
        tree.linesAt? location = some lines ∧
        Comment.insertBlankLine lines violation.lineNumber = .ok patched ∧
        after = tree.setFile location (Text.bytesOfLines patched) ∧
        patched[violation.lineNumber - 1]? = some inserted := by
  constructor
  · intro applied
    cases read : tree.readLines violation.path with
    | error fault => simp [apply, read] at applied
    | ok lines =>
      rcases readLines_eq_ok_iff.1 read with ⟨location, named, found⟩
      cases edited : Comment.insertBlankLine lines violation.lineNumber with
      | error fault => cases (apply_of_error read edited).symm.trans applied
      | ok patched =>
        rcases apply_of_ok named found edited with ⟨line, there, written⟩
        cases written.symm.trans applied
        exact ⟨location, lines, patched, named, found, edited, rfl, there⟩
  · intro success
    rcases success with ⟨location, lines, patched, named, found, edited, rfl, there⟩
    rcases apply_of_ok named found edited with ⟨line, there', written⟩
    cases there'.symm.trans there
    exact written

theorem exists_apply_iff_insertBlankLine :
    (∃ result, tree.apply violation = .ok result) ↔
      ∃ location lines, tree.locate? violation.path = some location ∧
        tree.linesAt? location = some lines ∧
        ∃ patched, Comment.insertBlankLine lines violation.lineNumber = .ok patched := by
  constructor
  · intro success
    rcases success with ⟨⟨after, inserted⟩, applied⟩
    rcases apply_eq_ok_iff.1 applied with ⟨location, lines, patched, named, found, edited, _⟩
    exact ⟨location, lines, named, found, patched, edited⟩
  · intro success
    rcases success with ⟨location, lines, named, found, patched, edited⟩
    rcases apply_of_ok named found edited with ⟨inserted, _, applied⟩
    exact ⟨_, applied⟩

/-- What a tree is after a violation has been applied to the file at a location, whose lines were
    `lines` and are `patched` now. -/
structure Patched (tree : FileTree) (location : Location) (lines patched : List String)
    (after : FileTree) : Prop where
  found : tree.linesAt? location = some lines
  locate? : ∀ path, after.locate? path = tree.locate? path
  entryAt? : ∀ other, after.entryAt? other =
    if other = location then some (.file (Text.bytesOfLines patched)) else tree.entryAt? other
  linesAt? : ∀ other, after.linesAt? other =
    if other = location then some patched else tree.linesAt? other

theorem patched_of_apply (applied : tree.apply violation = .ok (after, inserted)) :
    ∃ location lines patched, tree.locate? violation.path = some location ∧
      Comment.insertBlankLine lines violation.lineNumber = .ok patched ∧
      Patched tree location lines patched after := by
  rcases apply_eq_ok_iff.1 applied with ⟨location, lines, patched, named, found, edited, rfl, _⟩
  rcases linesAt?_eq_some_iff.1 found with ⟨bytes, there, read⟩
  have each := Comment.isLine_insertBlankLine (Text.isLine_of_linesOfBytes read) edited
  refine ⟨location, lines, patched, named, edited, found, locate?_setFile there,
    entryAt?_setFile there, ?_⟩
  intro other
  unfold linesAt?
  rw [entryAt?_setFile there]
  by_cases here : other = location
  · simp [here, Text.linesOfBytes_bytesOfLines each, Except.toOption]
  · simp [here]

/-- A violation can be applied if and only if it is applicable. -/
theorem exists_apply_iff :
    (∃ result, tree.apply violation = .ok result) ↔ tree.Applicable violation := by
  simp only [exists_apply_iff_insertBlankLine, Comment.exists_insertBlankLine_iff]
  constructor
  · intro success
    rcases success with ⟨location, lines, named, found, least, line, there, asterisk⟩
    have read := readLines_eq_ok_iff.2 ⟨location, named, found⟩
    have inside := (List.getElem?_eq_some_iff.1 there).1
    exact ⟨lines, line, read, least, by omega, there, asterisk⟩
  · intro applicable
    rcases applicable with ⟨lines, line, read, least, _, there, asterisk⟩
    rcases readLines_eq_ok_iff.1 read with ⟨location, named, found⟩
    exact ⟨location, lines, named, found, least, line, there, asterisk⟩

/-- What keeps a violation from being applied: its path leads to no text file, the file has no line
    before the reported one, or that line has no asterisk. -/
inductive Obstacle (tree : FileTree) (violation : Violation) : PatchCause → Prop
  | unreadable {fault : ReadFault} (unread : tree.readLines violation.path = .error fault) :
      Obstacle tree violation (.unreadable fault)
  | noPrecedingLine {lines : List String} (read : tree.readLines violation.path = .ok lines)
      (outside : violation.lineNumber < 2 ∨ lines.length + 1 < violation.lineNumber) :
      Obstacle tree violation (.edit (.outside violation.lineNumber lines.length))
  | noAsterisk {lines : List String} {line : String}
      (read : tree.readLines violation.path = .ok lines) (least : 2 ≤ violation.lineNumber)
      (there : lines[violation.lineNumber - 2]? = some line) (bare : '*' ∉ line.toList) :
      Obstacle tree violation (.edit (.noAsterisk line))

/-- A number that can be written is no obstacle by itself. -/
theorem Obstacle.ne_numberTooLarge {cause : PatchCause} (obstacle : tree.Obstacle violation cause)
    (small : violation.lineNumber < Number.tooLarge) : cause ≠ .edit .numberTooLarge := by
  rintro rfl
  generalize same : PatchCause.edit .numberTooLarge = cause at obstacle
  cases obstacle with
  | unreadable => cases same
  | noPrecedingLine read outside =>
    have named := PatchCause.edit.inj same
    have large := (Comment.Fault.outside_eq_numberTooLarge_iff _).1 named.symm
    exact absurd small (Nat.not_lt_of_le (by simpa using large))
  | noAsterisk => cases same

/-- A violation that cannot be applied fails on its own path, and with what keeps it from being
    applied. What could be read and edited can be written, so writing is never the cause. -/
theorem apply_eq_error_iff {fault : PatchFault} :
    tree.apply violation = .error fault ↔
      fault.path = violation.path ∧ tree.Obstacle violation fault.cause := by
  constructor
  · intro failed
    cases read : tree.readLines violation.path with
    | error unread =>
      simp only [apply, read] at failed
      cases failed
      exact ⟨rfl, .unreadable read⟩
    | ok lines =>
      rcases readLines_eq_ok_iff.1 read with ⟨location, named, found⟩
      cases edited : Comment.insertBlankLine lines violation.lineNumber with
      | ok patched =>
        rcases apply_of_ok named found edited with ⟨inserted, _, applied⟩
        cases applied.symm.trans failed
      | error refused =>
        cases (apply_of_error read edited).symm.trans failed
        refine ⟨rfl, ?_⟩
        rcases Comment.insertBlankLine_eq_error_iff.1 edited with
          ⟨outside, rfl⟩ | ⟨previous, line, number, there, bare, rfl⟩
        · exact .noPrecedingLine read (by omega)
        · have index : violation.lineNumber - 2 = previous := by omega
          exact .noAsterisk read (by omega) (by rwa [index]) bare
  · intro hindered
    rcases fault with ⟨path, cause⟩
    rcases hindered with ⟨rfl, obstacle⟩
    cases obstacle with
    | unreadable unread => simp [apply, unread]
    | @noPrecedingLine lines read outside =>
      have unedited : Comment.insertBlankLine lines violation.lineNumber =
          .error (.outside violation.lineNumber lines.length) :=
        Comment.insertBlankLine_eq_error_iff.2 (.inl ⟨by omega, rfl⟩)
      exact apply_of_error read unedited
    | @noAsterisk lines line read least there bare =>
      have number : (violation.lineNumber : Int) = (violation.lineNumber - 2 : Nat) + 2 := by omega
      have unedited : Comment.insertBlankLine lines violation.lineNumber =
          .error (.noAsterisk line) :=
        Comment.insertBlankLine_eq_error_iff.2 (.inr ⟨_, line, number, there, bare, rfl⟩)
      exact apply_of_error read unedited

/-! ## Runs -/

variable {log : String} {matchers : List Matcher}

/-- A run whose log cannot be scanned to its end changes nothing. -/
theorem run_of_fault {fault : Log.ScanFault}
    (failed : (Log.scan tree (Path.normal log) matchers).fault = some fault) :
    tree.run log matchers =
      ⟨tree, none, (Log.scan tree (Path.normal log) matchers).findings.map Event.matched,
        .error (.scan fault)⟩ := by
  unfold run
  simp only [failed]

/-- A run whose log can be scanned applies the violations found, the last one first. -/
theorem run_of_scanned
    (scanned : (Log.scan tree (Path.normal log) matchers).fault = none) :
    tree.run log matchers =
      let scan := Log.scan tree (Path.normal log) matchers
      let violations := applicationOrder scan.violations
      let applied := tree.applyAll [] violations
      ⟨applied.1, some violations.length, scan.findings.map Event.matched ++
          [.found violations.length (Path.normal log)] ++ applied.2.1,
        match applied.2.2 with
        | some fault => .error (.patch fault)
        | none => .ok ⟨Path.normal log, violations,
            firstOccurrences (violations.map (·.path))⟩⟩ := by
  unfold run
  simp only [scanned]
  split <;> next result => simp only [result]

theorem run_tree (scanned : (Log.scan tree (Path.normal log) matchers).fault = none) :
    (tree.run log matchers).tree = (tree.applyAll []
      (applicationOrder (Log.scan tree (Path.normal log) matchers).violations)).1 := by
  rw [run_of_scanned scanned]

/-- A run whose log can be scanned prints how many violations were found. -/
theorem run_printed (scanned : (Log.scan tree (Path.normal log) matchers).fault = none) :
    (tree.run log matchers).printed = s!"Fixing {
      (Log.scan tree (Path.normal log) matchers).violations.length} at-clause violations\n" := by
  rw [run_of_scanned scanned]
  simp [RunOutcome.printed, applicationOrder]

/-- A run fails on the file on which applying its violations fails. -/
theorem run_result_of_patchFault {fault : PatchFault}
    (scanned : (Log.scan tree (Path.normal log) matchers).fault = none)
    (ended : (tree.applyAll []
      (applicationOrder (Log.scan tree (Path.normal log) matchers).violations)).2.2 =
        some fault) :
    (tree.run log matchers).result = .error (.patch fault) := by
  rw [run_of_scanned scanned]
  dsimp only
  rw [ended]

/-- A run of which all violations are applied tells which they were, and the paths of their files. -/
theorem run_result_of_applied
    (scanned : (Log.scan tree (Path.normal log) matchers).fault = none)
    (ended : (tree.applyAll []
      (applicationOrder (Log.scan tree (Path.normal log) matchers).violations)).2.2 = none) :
    (tree.run log matchers).result = .ok ⟨Path.normal log,
      applicationOrder (Log.scan tree (Path.normal log) matchers).violations,
      firstOccurrences ((applicationOrder
        (Log.scan tree (Path.normal log) matchers).violations).map (·.path))⟩ := by
  rw [run_of_scanned scanned]
  dsimp only
  rw [ended]

/-- A run succeeds if and only if all of its violations can be applied one after the other. -/
theorem exists_run_ok_iff
    (scanned : (Log.scan tree (Path.normal log) matchers).fault = none) :
    (∃ result, (tree.run log matchers).result = .ok result) ↔
      (tree.applyAll []
        (applicationOrder (Log.scan tree (Path.normal log) matchers).violations)).2.2 = none := by
  cases ended : (tree.applyAll []
      (applicationOrder (Log.scan tree (Path.normal log) matchers).violations)).2.2 with
  | some fault => simp [run_result_of_patchFault scanned ended]
  | none => simp [run_result_of_applied scanned ended]

/-- A path at the end counts if it did not occur before. -/
theorem firstOccurrences_concat (paths : List String) (path : String) :
    firstOccurrences (paths ++ [path]) =
      if path ∈ firstOccurrences paths then firstOccurrences paths
      else firstOccurrences paths ++ [path] := by
  simp only [firstOccurrences, List.foldl_append, List.foldl_cons, List.foldl_nil,
    List.contains_eq_mem, decide_eq_true_eq, List.mem_reverse]
  split
  · rfl
  · rw [List.reverse_cons]

/-- Leaving out what occurred before leaves out no path. -/
theorem mem_firstOccurrences {path : String} {paths : List String} :
    path ∈ firstOccurrences paths ↔ path ∈ paths := by
  induction paths using List.reverseRecOn with
  | nil => simp [firstOccurrences]
  | append_singleton paths last ih =>
    rw [firstOccurrences_concat]
    split
    · next before =>
      rw [List.mem_append, List.mem_singleton, ih]
      constructor
      · exact .inl
      · rintro (earlier | rfl)
        · exact earlier
        · exact ih.1 before
    · rw [List.mem_append, List.mem_append, ih]

/-! ## An example -/

/-- A matcher for lines that are a path, a colon and a line number. -/
def colonMatcher : Matcher where
  name := "colon"
  pattern :=
    ⟨"(.*):(\\d+)",
      .sequenceOf (Pattern.pathNode 1 :: Pattern.literal ":" ++ [Pattern.digitsNode 2]), 2, []⟩
  pathGroup := .number 1
  lineGroup := .number 2
  hasPathGroup := rfl
  hasLineGroup := rfl

/-- Two files, and a log that reports them by turns and one line of them twice. -/
def twoFiles : FileTree where
  entries := [(["A"], .file (Text.bytesOfLines [" * a", " * b"])),
    (["B"], .file (Text.bytesOfLines ["/**"])),
    (["log"], .file (Text.bytesOfLines ["A:2", "A:3", "B:2", "A:3"]))]
  workingDirectory := []

end FileTree

end JavadocRepair
