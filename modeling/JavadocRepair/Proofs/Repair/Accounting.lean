import JavadocRepair.Proofs.Repair.Concatenation

/-!
# What a successful run accounts for

A run announces its violations before it applies any of them, lists them in its result, and puts a
line into a file for each. The three agree whenever the run succeeds: they count the lines of the
log that report a violation, and the lines by which the files have grown, however their paths are
spelled. The repaired paths are listed by their last reports, the one reported last in front.
-/

namespace JavadocRepair

/-! ## Reports of a path -/

namespace Log

variable {matchers : List Matcher} {line path : String} {lines : List String} {index : Nat}

/-- The indices of the lines that report a violation in the file at a path. -/
def reportsOf (matchers : List Matcher) (lines : List String) (path : String) : Set Nat :=
  {index | ∃ line violation, lines[index]? = some line ∧
    violation? matchers line = some violation ∧ violation.path = path}

theorem succ_mem_reportsOf_cons :
    index + 1 ∈ reportsOf matchers (line :: lines) path ↔
      index ∈ reportsOf matchers lines path := by
  simp [reportsOf]

theorem nonempty_reportsOf_iff :
    (reportsOf matchers lines path).Nonempty ↔
      path ∈ (lines.filterMap (violation? matchers)).map (·.path) := by
  simp only [List.mem_map, List.mem_filterMap]
  constructor
  · rintro ⟨index, line, violation, there, reported, rfl⟩
    exact ⟨violation, ⟨line, List.mem_of_getElem? there, reported⟩, rfl⟩
  · rintro ⟨violation, ⟨line, member, reported⟩, rfl⟩
    rcases List.getElem?_of_mem member with ⟨index, there⟩
    exact ⟨index, line, violation, there, reported, rfl⟩

/-- A path that is reported at all has a last report. -/
theorem exists_isGreatest_reportsOf (reported : (reportsOf matchers lines path).Nonempty) :
    ∃ last, IsGreatest (reportsOf matchers lines path) last := by
  have bounded : BddAbove (reportsOf matchers lines path) := by
    refine ⟨lines.length, ?_⟩
    rintro index ⟨line, _, there, _⟩
    exact (List.getElem?_eq_some_iff.1 there).1.le
  exact ⟨_, Nat.sSup_mem reported bounded, fun index member => le_csSup bounded member⟩

/-- One more line in front moves the last report of a path that is reported behind it by one. -/
theorem isGreatest_reportsOf_cons (reported : (reportsOf matchers lines path).Nonempty) {last : Nat}
    (greatest : IsGreatest (reportsOf matchers (line :: lines) path) last) :
    ∃ before, last = before + 1 ∧ IsGreatest (reportsOf matchers lines path) before := by
  rcases reported with ⟨index, member⟩
  have above := greatest.2 (succ_mem_reportsOf_cons.2 member)
  obtain ⟨before, rfl⟩ : ∃ before, last = before + 1 := ⟨last - 1, by omega⟩
  refine ⟨before, rfl, succ_mem_reportsOf_cons.1 greatest.1, ?_⟩
  intro other member
  have below := greatest.2 (succ_mem_reportsOf_cons.2 member)
  omega

/-- The first path is reported by a line behind the last one that reports the second path. -/
def ReportedLater (matchers : List Matcher) (lines : List String) (first second : String) : Prop :=
  ∀ last other, IsGreatest (reportsOf matchers lines first) last →
    IsGreatest (reportsOf matchers lines second) other → other < last

/-- Among the paths of the violations of a log, last one first, the one that is reported last comes
    first. -/
theorem pairwise_reportedLater (matchers : List Matcher) (lines : List String) :
    (firstOccurrences ((lines.filterMap (violation? matchers)).reverse.map (·.path))).Pairwise
      (ReportedLater matchers lines) := by
  induction lines with
  | nil => exact .nil
  | cons line lines ih =>
    have behind {path : String} (member : path ∈ firstOccurrences
        ((lines.filterMap (violation? matchers)).reverse.map (·.path))) :
        (reportsOf matchers lines path).Nonempty := by
      rw [FileTree.mem_firstOccurrences, List.map_reverse, List.mem_reverse] at member
      exact nonempty_reportsOf_iff.2 member
    -- the line in front moves all last reports behind it alike
    have moved : (firstOccurrences
        ((lines.filterMap (violation? matchers)).reverse.map (·.path))).Pairwise
          (ReportedLater matchers (line :: lines)) := by
      refine ih.imp_of_mem ?_
      intro first second firstMember secondMember later last other greatest greatest'
      rcases isGreatest_reportsOf_cons (behind firstMember) greatest with ⟨m, rfl, last⟩
      rcases isGreatest_reportsOf_cons (behind secondMember) greatest' with ⟨n, rfl, last'⟩
      have before := later m n last last'
      omega
    cases reported : violation? matchers line with
    | none => rwa [List.filterMap_cons_none reported]
    | some violation =>
      rw [List.filterMap_cons_some reported, List.reverse_cons, List.map_append,
        List.map_singleton, FileTree.firstOccurrences_concat]
      split
      · exact moved
      · next new =>
        refine List.pairwise_append.2 ⟨moved, List.pairwise_singleton _ _, ?_⟩
        intro first member second only last other greatest greatest'
        obtain rfl := List.mem_singleton.1 only
        rcases isGreatest_reportsOf_cons (behind member) greatest with ⟨m, rfl, _⟩
        -- a path that no line behind reports is last reported by the line in front
        have front : other = 0 := by
          cases other with
          | zero => rfl
          | succ index =>
            have reportedBehind := nonempty_reportsOf_iff.1
              ⟨index, succ_mem_reportsOf_cons.1 greatest'.1⟩
            rw [FileTree.mem_firstOccurrences, List.map_reverse, List.mem_reverse] at new
            exact absurd reportedBehind new
        omega

/-- Among paths that are ordered by their last reports, the places tell which is reported later. -/
theorem lt_iff_of_pairwise {paths : List String}
    (order : paths.Pairwise (ReportedLater matchers lines)) {i j last other : Nat}
    {first second : String} (there : paths[i]? = some first) (there' : paths[j]? = some second)
    (greatest : IsGreatest (reportsOf matchers lines first) last)
    (greatest' : IsGreatest (reportsOf matchers lines second) other) : i < j ↔ other < last := by
  rcases List.getElem?_eq_some_iff.1 there with ⟨inside, rfl⟩
  rcases List.getElem?_eq_some_iff.1 there' with ⟨inside', rfl⟩
  rw [List.pairwise_iff_getElem] at order
  rcases lt_trichotomy i j with before | rfl | behind
  · have later := order i j inside inside' before last other greatest greatest'
    omega
  · have same := greatest.unique greatest'
    omega
  · have later := order j i inside' inside behind other last greatest' greatest
    omega

end Log

namespace FileTree

variable {tree after : FileTree} {violations : List Violation} {violation : Violation}
  {location : Location} {log path : String} {lines : List String} {matchers : List Matcher}

/-! ## Growth of files -/

/-- How many lines the text file at a location has; anything else has none. -/
def lineCount (tree : FileTree) (location : Location) : Nat :=
  ((tree.linesAt? location).getD []).length

/-- The files that violations name, however their paths are spelled. -/
def filesNamed (tree : FileTree) (violations : List Violation) : Finset Location :=
  (violations.filterMap fun violation => tree.locate? violation.path).toFinset

theorem Applications.named (applications : Applications tree violations after) :
    ∀ violation ∈ violations, ∃ location, tree.locate? violation.path = some location := by
  induction applications with
  | nil => simp
  | cons applied _ ih =>
    rcases patched_of_apply applied with ⟨location, _, _, named, _, change⟩
    refine List.forall_mem_cons.2 ⟨⟨location, named⟩, ?_⟩
    intro other member
    rw [← change.locate?]
    exact ih other member

/-- A text file that violations are applied to has one more line for each of them. -/
theorem Applications.exists_lines (applications : Applications tree violations after)
    (touched : tree.violationsAt violations location ≠ []) :
    ∃ before now, tree.linesAt? location = some before ∧ after.linesAt? location = some now ∧
      now.length = before.length + (tree.violationsAt violations location).length := by
  have keeps := applications.keeps keeps_nil
  rw [List.nil_append] at keeps
  rcases keeps.touched location touched with ⟨bytes, lines, counts, there, read, fits, sum, entry⟩
  have each := Comment.isLine_withBlanks fits (Text.isLine_of_linesOfBytes read)
  refine ⟨lines, Comment.withBlanks lines counts, linesAt?_eq_some_iff.2 ⟨bytes, there, read⟩,
    linesAt?_eq_some_iff.2 ⟨_, entry, Text.linesOfBytes_bytesOfLines each⟩, ?_⟩
  rw [Comment.length_withBlanks fits, sum]

/-- What is chosen from a list, counted by what it is, is all that is chosen. -/
theorem sum_countP_eq_length_filterMap {α β : Type} [DecidableEq β] (f : α → Option β)
    (xs : List α) :
    ∑ b ∈ (xs.filterMap f).toFinset, xs.countP (fun a => f a = some b) =
      (xs.filterMap f).length := by
  rw [← List.sum_toFinset_count_eq_length]
  refine Finset.sum_congr rfl ?_
  intro b _
  rw [List.count_filterMap]
  exact List.countP_congr (by simp)

/-- The violations of a list, file by file, are all of them if each names a file. -/
theorem sum_length_violationsAt
    (named : ∀ violation ∈ violations, ∃ location, tree.locate? violation.path = some location) :
    ∑ location ∈ tree.filesNamed violations, (tree.violationsAt violations location).length =
      violations.length := by
  have all : (violations.filterMap fun violation => tree.locate? violation.path).length =
      violations.length := by
    rw [List.length_filterMap_eq_countP, List.countP_eq_length]
    intro violation member
    exact Option.isSome_iff_exists.2 (named violation member)
  simp only [violationsAt, ← List.countP_eq_length_filter]
  rw [filesNamed, sum_countP_eq_length_filterMap, all]

theorem violationsAt_ne_nil (member : violation ∈ violations)
    (named : tree.locate? violation.path = some location) :
    tree.violationsAt violations location ≠ [] :=
  List.ne_nil_of_mem (List.mem_filter.2 ⟨member, by simpa using named⟩)

/-- The file that a violation names can be read before and after, by the path of the violation. -/
theorem Applications.exists_reads (applications : Applications tree violations after)
    (member : violation ∈ violations) :
    ∃ location before now, tree.locate? violation.path = some location ∧
      tree.readLines violation.path = .ok before ∧ tree.lineCount location = before.length ∧
      after.readLines violation.path = .ok now ∧ after.lineCount location = now.length := by
  rcases applications.named violation member with ⟨location, named⟩
  rcases applications.exists_lines (violationsAt_ne_nil member named) with
    ⟨before, now, found, found', _⟩
  have named' : after.locate? violation.path = some location :=
    ((applications.keeps keeps_nil).locate? _).trans named
  refine ⟨location, before, now, named, readLines_eq_ok_iff.2 ⟨location, named, found⟩, ?_,
    readLines_eq_ok_iff.2 ⟨location, named', found'⟩, ?_⟩
  · rw [lineCount, found, Option.getD_some]
  · rw [lineCount, found', Option.getD_some]

/-- The files that violations name have grown by as many lines as there are violations. -/
theorem Applications.sum_growth (applications : Applications tree violations after) :
    ∑ location ∈ tree.filesNamed violations,
      ((after.lineCount location : Int) - tree.lineCount location) = violations.length := by
  rw [← sum_length_violationsAt applications.named, Nat.cast_sum]
  refine Finset.sum_congr rfl ?_
  intro location member
  rw [filesNamed, List.mem_toFinset, List.mem_filterMap] at member
  rcases member with ⟨violation, member, named⟩
  rcases applications.exists_lines (violationsAt_ne_nil member named) with
    ⟨before, now, found, found', length⟩
  rw [lineCount, lineCount, found, found', Option.getD_some, Option.getD_some, length]
  omega

/-! ## Runs -/

/-- A run succeeds only if its log can be scanned and all violations can be applied, which it then
    lists. -/
theorem exists_applications_of_run {result : RunResult}
    (success : (tree.run log matchers).result = .ok result) :
    (Log.scan tree (Path.normal log) matchers).fault = none ∧
    Applications tree result.violations (tree.run log matchers).tree ∧
    result.violations = (Log.scan tree (Path.normal log) matchers).violations.reverse ∧
    result.patchedFiles = firstOccurrences (result.violations.map (·.path)) := by
  cases scanned : (Log.scan tree (Path.normal log) matchers).fault with
  | some fault =>
    rw [run_of_fault scanned] at success
    cases success
  | none =>
    have ended := (exists_run_ok_iff scanned).1 ⟨result, success⟩
    rw [run_result_of_applied scanned ended] at success
    cases success
    rw [run_tree scanned]
    dsimp only
    exact ⟨rfl, applications_of_applyAll ended, rfl, rfl⟩

/-- What a successful run accounts for. Its violations are those of the log, last one first, with
    all repetitions. The number that it printed is the number of these, of the lines of the log that
    report a violation, and of the lines by which the files that the violations name have grown
    together, each file counted once however its paths are spelled. The repaired paths are the paths
    of the violations, each once, and one comes before another if and only if its last report comes
    behind the last report of the other. -/
theorem run_accounts {result : RunResult} (success : (tree.run log matchers).result = .ok result) :
    let outcome := tree.run log matchers
    ∃ lines, tree.readLines (Path.normal log) = .ok lines ∧
      (∀ line ∈ lines, Log.lineFault? matchers line = none) ∧
      (Log.scan tree (Path.normal log) matchers).violations =
        lines.filterMap (Log.violation? matchers) ∧
      result.violations = (Log.scan tree (Path.normal log) matchers).violations.reverse ∧
      outcome.printed = s!"Fixing {result.violations.length} at-clause violations\n" ∧
      result.violations.length =
        lines.countP (fun line => (Log.violation? matchers line).isSome) ∧
      (∀ violation ∈ result.violations, ∃ location before now,
        tree.locate? violation.path = some location ∧
        tree.readLines violation.path = .ok before ∧ tree.lineCount location = before.length ∧
        outcome.tree.readLines violation.path = .ok now ∧
        outcome.tree.lineCount location = now.length) ∧
      ∑ location ∈ tree.filesNamed result.violations,
        ((outcome.tree.lineCount location : Int) - tree.lineCount location) =
          result.violations.length ∧
      result.patchedFiles.Nodup ∧
      (∀ path, path ∈ result.patchedFiles ↔ ∃ violation ∈ result.violations,
        violation.path = path) ∧
      ∀ (i j : Nat) (first second : String), result.patchedFiles[i]? = some first →
        result.patchedFiles[j]? = some second →
        ∃ last other : Nat, IsGreatest (Log.reportsOf matchers lines first) last ∧
          IsGreatest (Log.reportsOf matchers lines second) other ∧ (i < j ↔ other < last) := by
  intro outcome
  rcases exists_applications_of_run success with ⟨scanned, applications, reversed, paths⟩
  rcases Log.exists_lines_of_scan scanned with ⟨lines, read, good, found⟩
  have printed := run_printed scanned
  have length : result.violations.length =
      (Log.scan tree (Path.normal log) matchers).violations.length := by
    rw [reversed, List.length_reverse]
  have order := Log.pairwise_reportedLater matchers lines
  rw [← found, ← reversed, ← paths] at order
  have last {path : String} (member : path ∈ result.patchedFiles) :
      ∃ last, IsGreatest (Log.reportsOf matchers lines path) last := by
    refine Log.exists_isGreatest_reportsOf (Log.nonempty_reportsOf_iff.2 ?_)
    rw [paths, mem_firstOccurrences, reversed, found, List.map_reverse] at member
    exact List.mem_reverse.1 member
  refine ⟨lines, read, good, found, reversed, by rw [printed, length], ?_, ?_,
    applications.sum_growth, ?_, ?_, ?_⟩
  · rw [length, found, List.length_filterMap_eq_countP]
  · exact fun violation => applications.exists_reads
  · refine order.imp_of_mem ?_
    rintro path _ member _ later rfl
    rcases last member with ⟨index, greatest⟩
    exact lt_irrefl index (later index index greatest greatest)
  · intro path
    rw [paths, mem_firstOccurrences, List.mem_map]
  · intro i j first second there there'
    rcases last (List.mem_of_getElem? there) with ⟨index, greatest⟩
    rcases last (List.mem_of_getElem? there') with ⟨other, greatest'⟩
    exact ⟨index, other, greatest, greatest',
      Log.lt_iff_of_pairwise order there there' greatest greatest'⟩

/-- Two files, and a log that reports one of them by two spellings of its path. -/
def twoSpellings : FileTree where
  entries := [(["A"], .file (Text.bytesOfLines [" * a", " * b"])),
    (["B"], .file (Text.bytesOfLines ["/**"])),
    (["log"], .file (Text.bytesOfLines ["A:2", "noise", "./A:3", "B:2", "A:3"]))]
  workingDirectory := []

theorem run_accounts_twoSpellings :
    let outcome := twoSpellings.run "log" [colonMatcher]
    let lines := ["A:2", "noise", "./A:3", "B:2", "A:3"]
    outcome.result = .ok
      { log := "log"
        violations :=
          [⟨"A", 3, by decide⟩, ⟨"B", 2, by decide⟩, ⟨"./A", 3, by decide⟩, ⟨"A", 2, by decide⟩]
        patchedFiles := ["A", "B", "./A"] } ∧
    outcome.printed = "Fixing 4 at-clause violations\n" ∧
    lines.countP (fun line => (Log.violation? [colonMatcher] line).isSome) = 4 ∧
    ∑ location ∈ {["A"], ["B"]},
      ((outcome.tree.lineCount location : Int) - twoSpellings.lineCount location) = 4 ∧
    ∃ last other : Nat, IsGreatest (Log.reportsOf [colonMatcher] lines "A") last ∧
      IsGreatest (Log.reportsOf [colonMatcher] lines "./A") other ∧ other < last := by
  intro outcome lines
  have success : outcome.result = .ok
      { log := "log"
        violations :=
          [⟨"A", 3, by decide⟩, ⟨"B", 2, by decide⟩, ⟨"./A", 3, by decide⟩, ⟨"A", 2, by decide⟩]
        patchedFiles := ["A", "B", "./A"] } := by decide +kernel
  have read : twoSpellings.readLines (Path.normal "log") = .ok lines := by decide +kernel
  have files : twoSpellings.filesNamed
      [⟨"A", 3, by decide⟩, ⟨"B", 2, by decide⟩, ⟨"./A", 3, by decide⟩, ⟨"A", 2, by decide⟩] =
        {["A"], ["B"]} := by decide +kernel
  rcases run_accounts success with
    ⟨_, again, _, _, _, printed, counted, _, growth, _, _, order⟩
  cases read.symm.trans again
  rw [files] at growth
  rcases order 0 2 "A" "./A" rfl rfl with ⟨last, other, greatest, greatest', before⟩
  exact ⟨success, printed, counted.symm, growth, last, other, greatest, greatest',
    before.1 (by decide)⟩

end FileTree

end JavadocRepair
