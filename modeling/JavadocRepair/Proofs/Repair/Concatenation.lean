import JavadocRepair.Proofs.Log.Scan
import JavadocRepair.Proofs.Repair.Independence
import JavadocRepair.Proofs.Text.LineEnds

/-!
# Logs one after the other

A log that is put together from two reports what the first reports and then what the second reports,
wherever the blocks are cut in which it is read. Since violations are applied from the last one on, a
run on it does what a run on the second log does and, if that succeeds, what a run on the first log
does then.
-/

namespace JavadocRepair

namespace FileTree

variable {tree : FileTree} {matchers : List Matcher} {upper lower whole : String}
  {first second : List Violation}

/-! ## Scans -/

/-- If one log is empty or ends in a line feed, a second one behind it is scanned as if it stood by
    itself. -/
theorem Reports.append {front back : List UInt8}
    (above : tree.read (Path.normal upper) = .ok front)
    (below : tree.read (Path.normal lower) = .ok back)
    (both : tree.read (Path.normal whole) = .ok (front ++ back))
    (ends : front = [] ∨ front.getLast? = some 0x0a)
    (reports : tree.Reports upper matchers first) (reports' : tree.Reports lower matchers second) :
    tree.Reports whole matchers (first ++ second) := by
  rcases reports with ⟨scanned, rfl⟩
  rcases reports' with ⟨scanned', rfl⟩
  rcases Log.exists_encode_of_scan above scanned with ⟨chars, rfl⟩
  rcases Log.exists_encode_of_scan below scanned' with ⟨chars', rfl⟩
  have cut : chars = [] ∨ chars.getLast? = some '\n' := by
    rcases ends with empty | last
    · cases chars with
      | nil => exact .inl rfl
      | cons c chars => simp [Text.encode_cons] at empty
    · exact .inr ((Text.getLast?_encode_eq_some_iff (by decide)).1 last)
  rw [← Text.encode_append] at both
  rw [Log.scan_encode above] at scanned
  rw [Log.scan_encode below] at scanned'
  have ended : (Log.reports matchers (Text.lines chars)).fault = none := by
    simpa [Log.Scan.mapFault] using scanned
  have ended' : (Log.reports matchers (Text.lines chars')).fault = none := by
    simpa [Log.Scan.mapFault] using scanned'
  rw [Reports, Log.scan_encode above, Log.scan_encode below, Log.scan_encode both,
    Text.lines_append cut, Log.reports_append]
  simp [Log.Scan.andThen, Log.Scan.mapFault, Log.Scan.after, Log.Scan.violations, ended, ended']

/-! ## Applications -/

/-- Violations behind others are applied if those could be, and to what those left. -/
theorem applyAll_append (tree : FileTree) (events : List Event) (xs ys : List Violation) :
    tree.applyAll events (xs ++ ys) =
      match tree.applyAll events xs with
      | (reached, inserted, some fault) => (reached, inserted, some fault)
      | (reached, inserted, none) => reached.applyAll inserted.reverse ys := by
  induction xs generalizing tree events with
  | nil => simp [applyAll]
  | cons violation xs ih =>
    simp only [List.cons_append, applyAll]
    cases tree.apply violation with
    | error fault => rfl
    | ok result => exact ih _ _

/-- The events so far have no influence on what is applied. -/
theorem applyAll_events (tree : FileTree) (events : List Event) (violations : List Violation) :
    (tree.applyAll events violations).1 = (tree.applyAll [] violations).1 ∧
      (tree.applyAll events violations).2.2 = (tree.applyAll [] violations).2.2 := by
  induction violations generalizing tree events with
  | nil => exact ⟨rfl, rfl⟩
  | cons violation violations ih =>
    simp only [applyAll]
    cases tree.apply violation with
    | error fault => exact ⟨rfl, rfl⟩
    | ok result =>
      rcases ih result.1 (.inserted result.2 violation :: events) with ⟨reached, ended⟩
      rcases ih result.1 [.inserted result.2 violation] with ⟨reached', ended'⟩
      exact ⟨reached.trans reached'.symm, ended.trans ended'.symm⟩

theorem applications_of_applyAll {events : List Event} {violations : List Violation}
    (ended : (tree.applyAll events violations).2.2 = none) :
    Applications tree violations (tree.applyAll events violations).1 := by
  induction violations generalizing tree events with
  | nil => exact .nil
  | cons violation violations ih =>
    simp only [applyAll] at ended ⊢
    cases applied : tree.apply violation with
    | error fault => simp [applied] at ended
    | ok result =>
      simp only [applied] at ended ⊢
      exact .cons applied (ih ended)

/-- A path gives after some applications what it gave before, if none of the violations names the
    same file. -/
theorem Applications.read {after : FileTree} {violations : List Violation} {path : String}
    {bytes : List UInt8} (applications : Applications tree violations after)
    (elsewhere : ∀ violation ∈ violations, tree.locate? violation.path ≠ tree.locate? path)
    (readable : tree.read path = .ok bytes) : after.read path = .ok bytes := by
  have keeps := applications.keeps keeps_nil
  rw [List.nil_append] at keeps
  rcases read_eq_ok_iff.1 readable with ⟨location, named, there⟩
  have untouched : tree.violationsAt violations location = [] := by
    rw [violationsAt, List.filter_eq_nil_iff]
    intro violation member
    rw [← named]
    simpa using elsewhere violation member
  refine read_eq_ok_iff.2 ⟨location, ?_, ?_⟩
  · rw [keeps.locate?, named]
  · rw [keeps.untouched location untouched, there]

/-! ## Runs -/

/-- How a run on a log with some violations ends: as the application of these violations does. -/
theorem Reports.run {log : String} {violations : List Violation}
    (reports : tree.Reports log matchers violations) :
    let applied := tree.applyAll [] (applicationOrder violations)
    (tree.run log matchers).tree = applied.1 ∧
    (tree.run log matchers).printed =
      s!"Fixing {violations.length} at-clause violations\n" ∧
    ((∃ result, (tree.run log matchers).result = .ok result) ↔ applied.2.2 = none) ∧
    ∀ fault, (tree.run log matchers).result = .error fault ↔
      ∃ found, applied.2.2 = some found ∧ fault = .patch found := by
  rcases reports with ⟨scanned, rfl⟩
  refine ⟨run_tree scanned, run_printed scanned, exists_run_ok_iff scanned, ?_⟩
  intro fault
  cases ended : (tree.applyAll []
      (applicationOrder (Log.scan tree (Path.normal log) matchers).violations)).2.2 with
  | none => simp [run_result_of_applied scanned ended]
  | some found => simp [run_result_of_patchFault scanned ended, eq_comm]

/-- After violations that do not name a log, the log reports what it reported before. -/
theorem Reports.of_applications {log : String} {violations applied : List Violation}
    {after : FileTree} {bytes : List UInt8} (reports : tree.Reports log matchers violations)
    (readable : tree.read (Path.normal log) = .ok bytes)
    (applications : Applications tree applied after)
    (elsewhere : ∀ violation ∈ applied,
      tree.locate? violation.path ≠ tree.locate? (Path.normal log)) :
    after.Reports log matchers violations := by
  have same : after.read (Path.normal log) = tree.read (Path.normal log) := by
    rw [readable, applications.read elsewhere readable]
  rw [Reports, Log.scan_of_read same]
  exact reports

/-- A run on a log that is put together from two, of which the first is empty or ends in a line
    feed, does what a run on the second does and, if that succeeds, a run on the first after it. It
    finds the violations of the first and then those of the second, prints how many they are
    together, succeeds if and only if both of the other runs do, and otherwise fails on the same
    file, for the same reason and with the same files left as the first of them that fails. The
    violations of the second log may name any file but the first log. -/
theorem run_concatenated {front back : List UInt8}
    (above : tree.read (Path.normal upper) = .ok front)
    (below : tree.read (Path.normal lower) = .ok back)
    (both : tree.read (Path.normal whole) = .ok (front ++ back))
    (ends : front = [] ∨ front.getLast? = some 0x0a)
    (reports : tree.Reports upper matchers first) (reports' : tree.Reports lower matchers second)
    (apart : ∀ violation ∈ second,
      tree.locate? violation.path ≠ tree.locate? (Path.normal upper)) :
    let outcome := tree.run whole matchers
    let lowerRun := tree.run lower matchers
    let upperRun := lowerRun.tree.run upper matchers
    tree.Reports whole matchers (first ++ second) ∧
    outcome.printed = s!"Fixing {first.length + second.length} at-clause violations\n" ∧
    ((∃ result, outcome.result = .ok result) ↔
      (∃ result, lowerRun.result = .ok result) ∧ ∃ result, upperRun.result = .ok result) ∧
    (∀ fault, lowerRun.result = .error fault →
      (∃ found, fault = .patch found) ∧ outcome.result = .error fault ∧
        outcome.tree = lowerRun.tree) ∧
    ((∃ result, lowerRun.result = .ok result) →
      outcome.tree = upperRun.tree ∧
        ∀ fault, upperRun.result = .error fault →
          (∃ found, fault = .patch found) ∧ outcome.result = .error fault) := by
  have together := Reports.append above below both ends reports reports'
  have order : applicationOrder (first ++ second) =
      applicationOrder second ++ applicationOrder first := List.reverse_append
  rcases together.run with ⟨tree_eq, printed, succeeds, fails⟩
  rcases reports'.run with ⟨lowerTree, _, lowerSucceeds, lowerFails⟩
  rw [order, applyAll_append] at tree_eq succeeds fails
  dsimp only
  refine ⟨together, by rw [printed, List.length_append], ?_⟩
  rcases applied : tree.applyAll [] (applicationOrder second) with ⟨reached, inserted, ended⟩
  rw [applied] at lowerTree lowerSucceeds lowerFails tree_eq succeeds fails
  cases ended with
  | some found =>
    have failed : ¬∃ result, (tree.run lower matchers).result = .ok result := by
      simp [lowerSucceeds]
    refine ⟨by simp [succeeds, failed], ?_, fun success => absurd success failed⟩
    intro fault lowerFailed
    rcases (lowerFails fault).1 lowerFailed with ⟨other, same, rfl⟩
    exact ⟨⟨other, rfl⟩, (fails _).2 ⟨other, same, rfl⟩, tree_eq.trans lowerTree.symm⟩
  | none =>
    have applications : Applications tree (applicationOrder second) reached := by
      have ended : (tree.applyAll [] (applicationOrder second)).2.2 = none := by rw [applied]
      simpa [applied] using applications_of_applyAll ended
    have elsewhere : ∀ violation ∈ applicationOrder second,
        tree.locate? violation.path ≠ tree.locate? (Path.normal upper) := by
      intro violation member
      exact apart violation (List.mem_reverse.1 member)
    -- the run on the second log leaves the first log as it is, so that log is scanned as before
    have reportsAfter := reports.of_applications above applications elsewhere
    rcases reportsAfter.run with ⟨upperTree, _, upperSucceeds, upperFails⟩
    rcases applyAll_events reached inserted.reverse (applicationOrder first) with
      ⟨sameTree, sameEnd⟩
    dsimp only at lowerTree lowerSucceeds lowerFails tree_eq succeeds fails
    rw [lowerTree]
    rw [sameTree] at tree_eq
    rw [sameEnd] at succeeds fails
    refine ⟨?_, ?_, ?_⟩
    · rw [succeeds, lowerSucceeds, upperSucceeds]
      simp
    · intro fault lowerFailed
      rcases (lowerFails fault).1 lowerFailed with ⟨_, none, _⟩
      cases none
    · intro _
      refine ⟨tree_eq.trans upperTree.symm, ?_⟩
      intro fault upperFailed
      rcases (upperFails fault).1 upperFailed with ⟨found, same, rfl⟩
      exact ⟨⟨found, rfl⟩, (fails _).2 ⟨found, same, rfl⟩⟩

/-- Two logs that name the same file, and the log that is put together from both. -/
def threeLogs : FileTree where
  entries := [(["A"], .file (Text.bytesOfLines [" * a", " * b"])),
    (["upper"], .file (Text.bytesOfLines ["A:2"])),
    (["lower"], .file (Text.bytesOfLines ["A:3", "noise"])),
    (["whole"], .file (Text.bytesOfLines ["A:2"] ++ Text.bytesOfLines ["A:3", "noise"]))]
  workingDirectory := []

theorem run_concatenated_threeLogs :
    let first : List Violation := [⟨"A", 2, by decide⟩]
    let second : List Violation := [⟨"A", 3, by decide⟩]
    let lowerRun := threeLogs.run "lower" [colonMatcher]
    threeLogs.Reports "upper" [colonMatcher] first ∧
    threeLogs.Reports "lower" [colonMatcher] second ∧
    (∃ result, lowerRun.result = .ok result) ∧
    threeLogs.Reports "whole" [colonMatcher] (first ++ second) ∧
    (threeLogs.run "whole" [colonMatcher]).tree =
      (lowerRun.tree.run "upper" [colonMatcher]).tree := by
  intro first second lowerRun
  have reports : threeLogs.Reports "upper" [colonMatcher] first := by
    constructor <;> decide +kernel
  have reports' : threeLogs.Reports "lower" [colonMatcher] second := by
    constructor <;> decide +kernel
  have apart : ∀ violation ∈ second,
      threeLogs.locate? violation.path ≠ threeLogs.locate? (Path.normal "upper") := by
    decide +kernel
  have applied : (threeLogs.applyAll [] (applicationOrder second)).2.2 = none := by
    decide +kernel
  have success := reports'.run.2.2.1.2 applied
  have both : threeLogs.read (Path.normal "whole") = .ok (_ ++ _) := rfl
  rcases run_concatenated rfl rfl both (.inr rfl) reports reports' apart with
    ⟨together, _, _, _, same⟩
  exact ⟨reports, reports', success, together, (same success).1⟩

end FileTree

end JavadocRepair
