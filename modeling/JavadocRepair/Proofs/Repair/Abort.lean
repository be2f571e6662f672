import JavadocRepair.Proofs.Log.Scan
import JavadocRepair.Proofs.Repair.History

/-!
# Runs that stop

A run applies the violations of its log from the last one on. It stops at the first one that cannot
be applied, and what it leaves is what the violations before that one made of the tree: nothing of
the violation itself, nothing of those that were still to come, and nothing taken back.
-/

namespace JavadocRepair.FileTree

variable {tree next : FileTree} {first : List Violation}

/-! ## Applications and what follows them -/

/-- Violations that can be applied are applied before those behind them are looked at. -/
theorem Applications.applyAll_append (applications : Applications tree first next)
    (events : List Event) (rest : List Violation) :
    ∃ inserted : List Event, inserted.filterMap Event.applied? = first.reverse ∧
      tree.applyAll events (first ++ rest) = next.applyAll (inserted ++ events) rest := by
  induction applications generalizing events with
  | nil => exact ⟨[], rfl, rfl⟩
  | @cons tree middle next violation line later applied _ ih =>
    rcases ih (.inserted line violation :: events) with ⟨inserted, reported, reached⟩
    refine ⟨inserted ++ [.inserted line violation], ?_, ?_⟩
    · rw [List.filterMap_append, reported, List.reverse_cons]
      rfl
    · rw [List.cons_append, applyAll, applied, List.append_assoc, List.singleton_append]
      exact reached

/-- Violations that can all be applied are applied. -/
theorem Applications.applyAll (applications : Applications tree first next) :
    ∃ inserted : List Event, inserted.filterMap Event.applied? = first ∧
      tree.applyAll [] first = (next, inserted, none) := by
  rcases applications.applyAll_append [] [] with ⟨inserted, reported, reached⟩
  refine ⟨inserted.reverse, ?_, ?_⟩
  · rw [List.filterMap_reverse, reported, List.reverse_reverse]
  · rw [List.append_nil, List.append_nil] at reached
    exact reached

/-- The first violation that cannot be applied ends the application of violations. -/
theorem Applications.applyAll_obstacle {violation : Violation} {cause : PatchCause}
    (applications : Applications tree first next) (obstacle : next.Obstacle violation cause)
    (rest : List Violation) :
    ∃ inserted : List Event, inserted.filterMap Event.applied? = first ∧
      tree.applyAll [] (first ++ violation :: rest) =
        (next, inserted, some ⟨violation.path, cause⟩) := by
  rcases applications.applyAll_append [] (violation :: rest) with ⟨inserted, reported, reached⟩
  have failed : next.apply violation = .error ⟨violation.path, cause⟩ :=
    apply_eq_error_iff.2 ⟨rfl, obstacle⟩
  refine ⟨inserted.reverse, ?_, ?_⟩
  · rw [List.filterMap_reverse, reported, List.reverse_reverse]
  · rw [List.append_nil] at reached
    rw [reached, FileTree.applyAll, failed]

/-- Either all violations can be applied, or there is a first one that cannot. -/
theorem exists_applications_or_obstacle (tree : FileTree) (violations : List Violation) :
    (∃ after, Applications tree violations after) ∨
      ∃ first violation rest reached cause, violations = first ++ violation :: rest ∧
        Applications tree first reached ∧ reached.Obstacle violation cause := by
  induction violations generalizing tree with
  | nil => exact .inl ⟨tree, .nil⟩
  | cons violation violations ih =>
    cases applied : tree.apply violation with
    | error fault =>
      have obstacle := (apply_eq_error_iff.1 applied).2
      exact .inr ⟨[], violation, violations, tree, fault.cause, rfl, .nil, obstacle⟩
    | ok result =>
      rcases result with ⟨next, line⟩
      rcases ih next with ⟨after, later⟩ |
        ⟨first, last, rest, reached, cause, rfl, later, obstacle⟩
      · exact .inl ⟨after, .cons applied later⟩
      · exact .inr ⟨violation :: first, last, rest, reached, cause, rfl, .cons applied later,
          obstacle⟩

/-! ## Runs -/

/-- Of the violations of a log, those in `below` can be applied from the last one on, which leads to
    the tree `reached`, and there the violation in front of them meets an obstacle. -/
def StopsAt (tree : FileTree) (violations : List Violation) (violation : Violation)
    (below : List Violation) (reached : FileTree) (cause : PatchCause) : Prop :=
  (∃ above, violations = above ++ violation :: below) ∧
    Applications tree below.reverse reached ∧ reached.Obstacle violation cause

/-- A run stops for no number that is too large to be written: such a number is in no log. -/
theorem StopsAt.ne_numberTooLarge {log : String} {matchers : List Matcher} {violation : Violation}
    {below : List Violation} {reached : FileTree} {cause : PatchCause}
    (scanned : (Log.scan tree log matchers).fault = none)
    (stops : tree.StopsAt (Log.scan tree log matchers).violations violation below reached cause) :
    cause ≠ .edit .numberTooLarge := by
  rcases stops with ⟨⟨above, whole⟩, _, obstacle⟩
  have member : violation ∈ (Log.scan tree log matchers).violations := by simp [whole]
  exact obstacle.ne_numberTooLarge (Log.lineNumber_lt_tooLarge_of_scan scanned violation member)

/-- If no violation of a log meets an obstacle, all can be applied from the last one on. -/
theorem exists_applications_of_not_stopsAt {violations : List Violation}
    (free : ∀ violation below reached cause,
      ¬tree.StopsAt violations violation below reached cause) :
    ∃ after, Applications tree (applicationOrder violations) after := by
  rcases exists_applications_or_obstacle tree (applicationOrder violations) with all | stop
  · exact all
  · rcases stop with ⟨first, violation, rest, reached, cause, split, applications, obstacle⟩
    have whole : violations = rest.reverse ++ violation :: first.reverse := by
      rw [applicationOrder, List.reverse_eq_iff] at split
      simpa using split
    refine absurd ⟨⟨_, whole⟩, ?_, obstacle⟩ (free violation first.reverse reached cause)
    rwa [List.reverse_reverse]

/-- How a run ends. If its log cannot be scanned, it fails with the fault of the scan, prints
    nothing and changes nothing. If a violation of the log cannot be applied when its turn comes,
    the run fails on the path of that violation and for that reason; the tree is the one that the
    violations behind it in the log led to, and these are the ones that were applied. Otherwise the
    run succeeds, and every violation was applied once. In both cases the number of violations has
    been printed. -/
theorem run_outcome_cases (tree : FileTree) (log : String) (matchers : List Matcher) :
    let scan := Log.scan tree (Path.normal log) matchers
    let violations := scan.violations
    let outcome := tree.run log matchers
    let announcement := s!"Fixing {violations.length} at-clause violations\n"
    (∀ fault, scan.fault = some fault →
      outcome.result = .error (.scan fault) ∧ outcome.printed = "" ∧ outcome.tree = tree) ∧
    (scan.fault = none →
      (∀ violation below reached cause,
        tree.StopsAt violations violation below reached cause →
        outcome.result = .error (.patch ⟨violation.path, cause⟩) ∧
          outcome.printed = announcement ∧ outcome.tree = reached ∧
          outcome.events.filterMap Event.applied? = below.reverse) ∧
      ((∀ violation below reached cause,
          ¬tree.StopsAt violations violation below reached cause) →
        (∃ result, outcome.result = .ok result ∧ result.violations = violations.reverse) ∧
          outcome.printed = announcement ∧
          Applications tree violations.reverse outcome.tree ∧
          outcome.events.filterMap Event.applied? = violations.reverse)) := by
  dsimp only
  refine ⟨?_, ?_⟩
  · intro fault failed
    rw [run_of_fault failed]
    exact ⟨rfl, rfl, rfl⟩
  · intro scanned
    have printed := run_printed scanned
    have reached := run_tree scanned
    have reported := run_applied scanned
    refine ⟨?_, ?_⟩
    · intro violation below after cause stops
      rcases stops with ⟨⟨above, whole⟩, applications, obstacle⟩
      rcases applications.applyAll_obstacle obstacle above.reverse with ⟨inserted, applied, ended⟩
      have order : applicationOrder (Log.scan tree (Path.normal log) matchers).violations =
          below.reverse ++ violation :: above.reverse := by
        simp [applicationOrder, whole]
      rw [← order] at ended
      rw [ended] at reached reported
      exact ⟨run_result_of_patchFault scanned (by rw [ended]), printed, reached,
        reported.trans applied⟩
    · intro free
      rcases exists_applications_of_not_stopsAt free with ⟨after, applications⟩
      rcases applications.applyAll with ⟨inserted, applied, ended⟩
      have result := run_result_of_applied scanned (by rw [ended])
      rw [ended] at reached reported
      rw [reached]
      exact ⟨⟨_, result, rfl⟩, printed, applications, reported.trans applied⟩

/-- A file, and a log that reports it twice with a file that is not there between the reports. -/
def missingFile : FileTree where
  entries := [(["A"], .file (Text.bytesOfLines [" * a", " * b"])),
    (["log"], .file (Text.bytesOfLines ["A:2", "C:2", "A:3"]))]
  workingDirectory := []

/-- What is left of the file when only its last report is applied. -/
def lastReportApplied : FileTree where
  entries := [(["A"], .file (Text.bytesOfLines [" * a", " * b", " *"])),
    (["log"], .file (Text.bytesOfLines ["A:2", "C:2", "A:3"]))]
  workingDirectory := []

theorem run_outcome_cases_missingFile :
    let scan := Log.scan missingFile (Path.normal "log") [colonMatcher]
    let outcome := missingFile.run "log" [colonMatcher]
    scan.fault = none ∧
    missingFile.StopsAt scan.violations ⟨"C", 2, by decide⟩ [⟨"A", 3, by decide⟩]
      lastReportApplied (.unreadable (.openFault .notFound)) ∧
    outcome.result = .error (.patch ⟨"C", .unreadable (.openFault .notFound)⟩) ∧
    outcome.printed = "Fixing 3 at-clause violations\n" ∧
    outcome.tree = lastReportApplied ∧
    (missingFile.run "lost" [colonMatcher]).tree = missingFile := by
  dsimp only
  have scanned : (Log.scan missingFile (Path.normal "log") [colonMatcher]).fault = none := by
    decide +kernel
  have found : (Log.scan missingFile (Path.normal "log") [colonMatcher]).violations =
      [⟨"A", 2, by decide⟩, ⟨"C", 2, by decide⟩, ⟨"A", 3, by decide⟩] := by
    decide +kernel
  have last : missingFile.apply ⟨"A", 3, by decide⟩ = .ok (lastReportApplied, " *") := by
    rfl
  have obstacle : lastReportApplied.Obstacle ⟨"C", 2, by decide⟩
      (.unreadable (.openFault .notFound)) := .unreadable rfl
  have stops : missingFile.StopsAt
      (Log.scan missingFile (Path.normal "log") [colonMatcher]).violations ⟨"C", 2, by decide⟩
      [⟨"A", 3, by decide⟩] lastReportApplied (.unreadable (.openFault .notFound)) :=
    ⟨⟨[⟨"A", 2, by decide⟩], found⟩, .cons last .nil, obstacle⟩
  have lost : (Log.scan missingFile (Path.normal "lost") [colonMatcher]).fault =
      some (.unreadable "lost" (.openFault .notFound)) := by
    decide +kernel
  have ended := (run_outcome_cases missingFile "log" [colonMatcher]).2 scanned
  rcases ended.1 _ _ _ _ stops with ⟨result, printed, reached, _⟩
  rw [found] at printed
  exact ⟨scanned, stops, result, printed, reached,
    ((run_outcome_cases missingFile "lost" [colonMatcher]).1 _ lost).2.2⟩

end JavadocRepair.FileTree
