import JavadocRepair.Proofs.Repair.History

/-!
# Repairs of different files

What a violation does to its file depends on nothing but that file. So violations can be applied one
after the other if and only if each of them names a file and those of every file can be applied to
that file by itself, and then every file is what its own violations make of it. How the violations
of different files are mixed makes no difference.
-/

namespace JavadocRepair

/-- The bytes of a text file after blank lines are put in front of the lines with some numbers, one
    after the other. The bytes are read anew for every line. -/
def Comment.repairBytes? (bytes : List UInt8) : List Nat → Option (List UInt8)
  | [] => some bytes
  | lineNumber :: rest =>
    match Text.linesOfBytes bytes with
    | .error _ => none
    | .ok lines =>
      match insertBlankLine lines lineNumber with
      | .error _ => none
      | .ok patched => repairBytes? (Text.bytesOfLines patched) rest

namespace FileTree

variable {tree next : FileTree} {violation : Violation} {violations first second : List Violation}
  {location : Location} {inserted : String}

/-- The line numbers that violations report in the file at a location. -/
def lineNumbersAt (tree : FileTree) (violations : List Violation) (location : Location) :
    List Nat :=
  (tree.violationsAt violations location).map (·.lineNumber)

/-- What stands at a location after the violations that name it are applied to it by itself, or
    nothing if they cannot be applied. -/
def repairedFile? (tree : FileTree) (violations : List Violation) (location : Location) :
    Option Entry :=
  match tree.entryAt? location with
  | some (.file bytes) =>
    (Comment.repairBytes? bytes (tree.lineNumbersAt violations location)).map .file
  | other => other

/-- Every violation names a file, and the violations of each file can be applied to it by itself. -/
structure ApplicableByFile (tree : FileTree) (violations : List Violation) : Prop where
  named : ∀ violation ∈ violations, ∃ location, tree.locate? violation.path = some location
  alone : ∀ location, (tree.entryAt? location).isSome →
    (tree.repairedFile? violations location).isSome

/-! ## One violation -/

theorem lineNumbersAt_cons :
    tree.lineNumbersAt (violation :: violations) location =
      if tree.locate? violation.path = some location then
        violation.lineNumber :: tree.lineNumbersAt violations location
      else tree.lineNumbersAt violations location := by
  by_cases named : tree.locate? violation.path = some location
  · simp [lineNumbersAt, violationsAt, named]
  · simp [lineNumbersAt, violationsAt, named]

theorem lineNumbersAt_of_locate? (same : ∀ path, next.locate? path = tree.locate? path) :
    next.lineNumbersAt violations location = tree.lineNumbersAt violations location := by
  simp only [lineNumbersAt, violationsAt, same]

/-- A violation is the first step of the repair of its own file, and no step of any other. -/
theorem repairedFile?_of_apply (applied : tree.apply violation = .ok (next, inserted))
    (violations : List Violation) (location : Location) :
    next.repairedFile? violations location =
      tree.repairedFile? (violation :: violations) location := by
  rcases patched_of_apply applied with ⟨place, lines, patched, named, edited, change⟩
  rcases linesAt?_eq_some_iff.1 change.found with ⟨bytes, there, read⟩
  rw [repairedFile?, repairedFile?, change.entryAt?, lineNumbersAt_of_locate? change.locate?,
    lineNumbersAt_cons, named]
  by_cases here : location = place
  · subst here
    simp [there, Comment.repairBytes?, read, edited]
  · have elsewhere : ¬some place = some location := by
      intro same
      exact here (Option.some.inj same).symm
    rw [if_neg here, if_neg elsewhere]

/-- Where something stands before a violation is applied, something stands afterwards. -/
theorem isSome_entryAt?_of_apply (applied : tree.apply violation = .ok (next, inserted))
    (location : Location) :
    (next.entryAt? location).isSome = (tree.entryAt? location).isSome := by
  rcases patched_of_apply applied with ⟨place, lines, patched, _, _, change⟩
  rcases linesAt?_eq_some_iff.1 change.found with ⟨bytes, there, _⟩
  rw [change.entryAt?]
  by_cases here : location = place
  · simp [here, there]
  · rw [if_neg here]

/-- After a violation is applied, the others can be applied file by file if and only if all of them
    could be before. -/
theorem applicableByFile_of_apply (applied : tree.apply violation = .ok (next, inserted)) :
    next.ApplicableByFile violations ↔ tree.ApplicableByFile (violation :: violations) := by
  rcases patched_of_apply applied with ⟨place, _, _, named, _, change⟩
  constructor
  · intro later
    refine ⟨List.forall_mem_cons.2 ⟨⟨place, named⟩, ?_⟩, ?_⟩
    · intro other member
      rw [← change.locate?]
      exact later.named other member
    · intro location there
      rw [← repairedFile?_of_apply applied]
      exact later.alone location (by rwa [isSome_entryAt?_of_apply applied])
  · intro whole
    refine ⟨?_, ?_⟩
    · intro other member
      rw [change.locate?]
      exact whole.named other (List.mem_cons_of_mem _ member)
    · intro location there
      rw [repairedFile?_of_apply applied]
      exact whole.alone location (by rwa [← isSome_entryAt?_of_apply applied])

/-- A violation that cannot be applied names no file, or cannot be applied to its file by itself. -/
theorem not_applicableByFile_of_error {fault : PatchFault}
    (failed : tree.apply violation = .error fault) :
    ¬tree.ApplicableByFile (violation :: violations) := by
  intro whole
  rcases List.forall_mem_cons.1 whole.named with ⟨⟨location, named⟩, _⟩
  rcases resolve_of_locate? named with ⟨bytes, _, there⟩
  have alone := whole.alone location (by simp [there])
  rw [repairedFile?, there, lineNumbersAt_cons, if_pos named] at alone
  dsimp only at alone
  -- the first step of the repair of the file by itself is the application that failed
  cases read : Text.linesOfBytes bytes with
  | error fault => simp [Comment.repairBytes?, read] at alone
  | ok lines =>
    cases edited : Comment.insertBlankLine lines violation.lineNumber with
    | error fault => simp [Comment.repairBytes?, read, edited] at alone
    | ok patched =>
      have found := linesAt?_eq_some_iff.2 ⟨bytes, there, read⟩
      rcases apply_of_ok named found edited with ⟨inserted, _, applied⟩
      rw [failed] at applied
      cases applied

/-! ## Many violations -/

/-- Violations can be applied one after the other if and only if they can be applied file by file,
    and then everything is what its own violations make of it. -/
theorem applyAll_byFile (tree : FileTree) (events : List Event) (violations : List Violation) :
    ((tree.applyAll events violations).2.2 = none ↔ tree.ApplicableByFile violations) ∧
    (tree.ApplicableByFile violations → ∀ location,
      (tree.applyAll events violations).1.entryAt? location =
        tree.repairedFile? violations location) := by
  induction violations generalizing tree events with
  | nil =>
    have unchanged (location : Location) :
        tree.repairedFile? [] location = tree.entryAt? location := by
      unfold repairedFile?
      split
      · next bytes there => simp [lineNumbersAt, violationsAt, Comment.repairBytes?, there]
      · rfl
    refine ⟨?_, fun _ location => (unchanged location).symm⟩
    simp only [applyAll, true_iff]
    refine ⟨by simp, ?_⟩
    intro location there
    rwa [unchanged]
  | cons violation violations ih =>
    simp only [applyAll]
    cases applied : tree.apply violation with
    | error fault =>
      have inapplicable : ¬tree.ApplicableByFile (violation :: violations) :=
        not_applicableByFile_of_error applied
      simp [inapplicable]
    | ok result =>
      rcases result with ⟨next, line⟩
      rcases ih next (.inserted line violation :: events) with ⟨succeeds, after⟩
      have same : next.ApplicableByFile violations ↔
          tree.ApplicableByFile (violation :: violations) := applicableByFile_of_apply applied
      refine ⟨succeeds.trans same, ?_⟩
      intro whole location
      rw [← repairedFile?_of_apply applied]
      exact after (same.2 whole) location

/-! ## Different mixtures -/

/-- Two lists of violations that report the same of every file, and of which both or none have a
    violation that names no file. -/
structure SameByFile (tree : FileTree) (first second : List Violation) : Prop where
  violationsAt : ∀ location, tree.violationsAt first location = tree.violationsAt second location
  astray : (∃ violation ∈ first, tree.locate? violation.path = none) ↔
    ∃ violation ∈ second, tree.locate? violation.path = none

theorem SameByFile.symm (same : tree.SameByFile first second) : tree.SameByFile second first :=
  ⟨fun location => (same.violationsAt location).symm, same.astray.symm⟩

/-- The order of application keeps what two lists have in common. -/
theorem SameByFile.applicationOrder (same : tree.SameByFile first second) :
    tree.SameByFile (applicationOrder first) (applicationOrder second) := by
  refine ⟨?_, ?_⟩
  · intro location
    have reversed := congrArg List.reverse (same.violationsAt location)
    rw [FileTree.violationsAt, FileTree.violationsAt, ← List.filter_reverse,
      ← List.filter_reverse] at reversed
    exact reversed
  · simpa [JavadocRepair.applicationOrder] using same.astray

theorem SameByFile.repairedFile? (same : tree.SameByFile first second) (location : Location) :
    tree.repairedFile? first location = tree.repairedFile? second location := by
  simp only [FileTree.repairedFile?, lineNumbersAt, same.violationsAt]

theorem SameByFile.applicableByFile (same : tree.SameByFile first second)
    (whole : tree.ApplicableByFile first) : tree.ApplicableByFile second := by
  refine ⟨?_, ?_⟩
  · intro violation member
    cases named : tree.locate? violation.path with
    | some location => exact ⟨location, rfl⟩
    | none =>
      rcases same.astray.2 ⟨violation, member, named⟩ with ⟨other, there, astray⟩
      rcases whole.named other there with ⟨location, found⟩
      rw [astray] at found
      cases found
  · intro location there
    rw [← same.repairedFile?]
    exact whole.alone location there

/-- Two such lists hold the same violations if each of these names a file. -/
theorem SameByFile.perm (same : tree.SameByFile first second)
    (whole : tree.ApplicableByFile first) : first.Perm second := by
  rw [List.perm_iff_count]
  intro violation
  have counted (list : List Violation) {location : Location}
      (named : tree.locate? violation.path = some location) :
      list.count violation = (tree.violationsAt list location).count violation := by
    rw [FileTree.violationsAt, List.count_filter (by simpa using named)]
  have absent {list : List Violation} (all : tree.ApplicableByFile list)
      (astray : tree.locate? violation.path = none) : list.count violation = 0 := by
    rw [List.count_eq_zero]
    intro member
    rcases all.named violation member with ⟨location, named⟩
    rw [astray] at named
    cases named
  cases named : tree.locate? violation.path with
  | none => rw [absent whole named, absent (same.applicableByFile whole) named]
  | some location => rw [counted first named, counted second named, same.violationsAt]

/-- A log whose scan comes to its end with some violations found. -/
def Reports (tree : FileTree) (log : String) (matchers : List Matcher)
    (violations : List Violation) : Prop :=
  (Log.scan tree (Path.normal log) matchers).fault = none ∧
    (Log.scan tree (Path.normal log) matchers).violations = violations

/-- A run on a log whose violations can be applied file by file succeeds. It makes of everything
    what its own violations make of it, prints the number of violations, and names their paths. -/
theorem run_of_applicableByFile {log : String} {matchers : List Matcher}
    (reports : tree.Reports log matchers violations)
    (whole : tree.ApplicableByFile (applicationOrder violations)) :
    (∃ result, (tree.run log matchers).result = .ok result ∧
      ∀ path, path ∈ result.patchedFiles ↔ path ∈ violations.map (·.path)) ∧
    (tree.run log matchers).printed =
      s!"Fixing {violations.length} at-clause violations\n" ∧
    ∀ location, (tree.run log matchers).tree.entryAt? location =
      tree.repairedFile? (applicationOrder violations) location := by
  rcases reports with ⟨scanned, rfl⟩
  rcases applyAll_byFile tree [] (applicationOrder
    (Log.scan tree (Path.normal log) matchers).violations) with ⟨succeeds, after⟩
  refine ⟨⟨_, run_result_of_applied scanned (succeeds.2 whole), ?_⟩, run_printed scanned, ?_⟩
  · intro path
    rw [mem_firstOccurrences]
    simp [applicationOrder]
  · intro location
    rw [run_tree scanned]
    exact after whole location

/-- Edits of different files do not interact. If two lists of violations report the same of every
    file, and both or none have a violation that names no file, one list can be applied from its
    last violation on if and only if the other can. Each can if and only if all of its violations
    name files and those of each file, last one first, can be applied to it by itself. Then both
    lead to the same entry at every location, and runs on two logs with these violations print the
    same and repair the same paths. -/
theorem run_sameByFile (same : tree.SameByFile first second) :
    let one := tree.applyAll [] (applicationOrder first)
    let two := tree.applyAll [] (applicationOrder second)
    (one.2.2 = none ↔ tree.ApplicableByFile (applicationOrder first)) ∧
    (two.2.2 = none ↔ tree.ApplicableByFile (applicationOrder second)) ∧
    (one.2.2 = none ↔ two.2.2 = none) ∧
    (one.2.2 = none → ∀ location, one.1.entryAt? location = two.1.entryAt? location) ∧
    ∀ log matchers, tree.Reports log matchers first →
      ∀ other others, tree.Reports other others second →
        ((∃ result, (tree.run log matchers).result = .ok result) ↔
          ∃ result, (tree.run other others).result = .ok result) ∧
        ∀ result result', (tree.run log matchers).result = .ok result →
          (tree.run other others).result = .ok result' →
          (∀ location, (tree.run log matchers).tree.entryAt? location =
            (tree.run other others).tree.entryAt? location) ∧
          (tree.run log matchers).printed = (tree.run other others).printed ∧
          ∀ path, path ∈ result.patchedFiles ↔ path ∈ result'.patchedFiles := by
  have ordered := same.applicationOrder
  have agree : tree.ApplicableByFile (applicationOrder first) ↔
      tree.ApplicableByFile (applicationOrder second) :=
    ⟨ordered.applicableByFile, ordered.symm.applicableByFile⟩
  rcases applyAll_byFile tree [] (applicationOrder first) with ⟨succeeds, after⟩
  rcases applyAll_byFile tree [] (applicationOrder second) with ⟨succeeds', after'⟩
  refine ⟨succeeds, succeeds', succeeds.trans (agree.trans succeeds'.symm), ?_, ?_⟩
  · intro success location
    have whole := succeeds.1 success
    rw [after whole, after' (agree.1 whole), ordered.repairedFile?]
  · intro log matchers reports other others reports'
    have ends : (∃ result, (tree.run log matchers).result = .ok result) ↔
        tree.ApplicableByFile (applicationOrder first) := by
      rw [exists_run_ok_iff reports.1, reports.2]
      exact succeeds
    have ends' : (∃ result, (tree.run other others).result = .ok result) ↔
        tree.ApplicableByFile (applicationOrder second) := by
      rw [exists_run_ok_iff reports'.1, reports'.2]
      exact succeeds'
    refine ⟨ends.trans (agree.trans ends'.symm), ?_⟩
    intro result result' success success'
    have whole := ends.1 ⟨result, success⟩
    rcases run_of_applicableByFile reports whole with ⟨⟨_, given, paths⟩, printed, entries⟩
    rcases run_of_applicableByFile reports' (agree.1 whole) with
      ⟨⟨_, given', paths'⟩, printed', entries'⟩
    rw [success] at given
    rw [success'] at given'
    cases given
    cases given'
    have mixed : first.Perm second := by
      have reordered := ordered.perm whole
      exact (List.reverse_perm first).symm.trans (reordered.trans (List.reverse_perm second))
    refine ⟨?_, ?_, ?_⟩
    · intro location
      rw [entries, entries', ordered.repairedFile?]
    · rw [printed, printed', mixed.length_eq]
    · intro path
      rw [paths, paths', (mixed.map (·.path)).mem_iff]

/-- Two files and two logs that report the same of each of them, in different mixtures. -/
def twoMixtures : FileTree where
  entries := [(["A"], .file (Text.bytesOfLines [" * a", " * b"])),
    (["B"], .file (Text.bytesOfLines ["/**"])),
    (["log"], .file (Text.bytesOfLines ["A:2", "B:2", "A:3"])),
    (["other"], .file (Text.bytesOfLines ["A:2", "A:3", "B:2"]))]
  workingDirectory := []

theorem run_sameByFile_twoMixtures :
    let first : List Violation :=
      [⟨"A", 2, by decide⟩, ⟨"B", 2, by decide⟩, ⟨"A", 3, by decide⟩]
    let second : List Violation :=
      [⟨"A", 2, by decide⟩, ⟨"A", 3, by decide⟩, ⟨"B", 2, by decide⟩]
    twoMixtures.Reports "log" [colonMatcher] first ∧
    twoMixtures.Reports "other" [colonMatcher] second ∧
    twoMixtures.SameByFile first second ∧
    (twoMixtures.applyAll [] (applicationOrder first)).2.2 = none ∧
    (∃ result, (twoMixtures.run "other" [colonMatcher]).result = .ok result) ∧
    ∀ location, (twoMixtures.applyAll [] (applicationOrder first)).1.entryAt? location =
      (twoMixtures.applyAll [] (applicationOrder second)).1.entryAt? location := by
  intro first second
  have reports : twoMixtures.Reports "log" [colonMatcher] first := by
    constructor <;> decide +kernel
  have reports' : twoMixtures.Reports "other" [colonMatcher] second := by
    constructor <;> decide +kernel
  have a : twoMixtures.locate? "A" = some ["A"] := by decide +kernel
  have b : twoMixtures.locate? "B" = some ["B"] := by decide +kernel
  have same : twoMixtures.SameByFile first second := by
    refine ⟨?_, by simp [first, second, a, b]⟩
    intro location
    by_cases here : location = ["A"]
    · simp [violationsAt, first, second, a, b, here]
    · by_cases there : location = ["B"]
      · simp [violationsAt, first, second, a, b, there]
      · simp [violationsAt, first, second, a, b, Ne.symm here, Ne.symm there]
  have applied : (twoMixtures.applyAll [] (applicationOrder first)).2.2 = none := by
    decide +kernel
  rcases run_sameByFile same with ⟨_, _, _, entries, runs⟩
  have success : ∃ result, (twoMixtures.run "log" [colonMatcher]).result = .ok result := by
    rw [exists_run_ok_iff reports.1, reports.2]
    exact applied
  exact ⟨reports, reports', same, applied, (runs _ _ reports _ _ reports').1.1 success,
    entries applied⟩

end FileTree

end JavadocRepair
