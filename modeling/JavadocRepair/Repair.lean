import JavadocRepair.Comment
import JavadocRepair.Log.Scan
import JavadocRepair.Matcher.Builtin

/-!
# Repairing files

A violation is applied by reading its file, putting a blank comment line in front of the reported
line and writing the file again; if any of this fails, nothing is written. A run scans a log and
applies its violations last one first. Logs report a file from top to bottom, so each insertion
then only moves lines of which the violations have been applied already. The first violation that
cannot be applied ends the run, and what was written before stays.
-/

namespace JavadocRepair

/-- Why a violation cannot be applied. -/
inductive PatchCause where
  | unreadable (fault : ReadFault)
  | edit (fault : Comment.Fault)
  | unwritable (fault : OpenFault)
  deriving Repr, DecidableEq

/-- A file that could not be repaired, and why. -/
structure PatchFault where
  path : String
  cause : PatchCause
  deriving Repr, DecidableEq

/-- The wording of a cause for the file at a path. -/
def PatchCause.message (path : String) : PatchCause → String
  | .unreadable fault => fault.message path
  | .edit fault => fault.message
  | .unwritable fault => fault.message path

/-- The wording of a failure on the file at a path, with its reason if it is known. -/
def patchMessage (path : String) (reason : Option String) : String :=
  let message := s!"could not process file {path}"
  match reason with
  | none => message
  | some reason => s!"{message}: {reason}"

/-- The wording of a fault. -/
def PatchFault.message (fault : PatchFault) : String :=
  patchMessage fault.path (some (fault.cause.message fault.path))

/-- What happens during a run, for those who want to follow it. -/
inductive Event where
  | matched (finding : Log.Finding)
  | found (count : Nat) (log : String)
  | inserted (line : String) (violation : Violation)
  deriving Repr, DecidableEq

/-- The wording of an event, behind its level and the part of the program that it comes from. -/
def Event.message : Event → String
  | .matched finding =>
    s!"DEBUG tools.atclause.scan: matched {finding.violation.render} with {finding.matcher}"
  | .found count log => s!"DEBUG tools.atclause.scan: found {count} violations in {log}"
  | .inserted line violation =>
    s!"DEBUG tools.atclause.patch: inserted {Text.quoted line} at {violation.render}"

/-- Applies a violation: the tree after it and the line that was inserted. -/
def FileTree.apply (tree : FileTree) (violation : Violation) :
    Except PatchFault (FileTree × String) :=
  let fail (cause : PatchCause) : Except PatchFault (FileTree × String) :=
    .error ⟨violation.path, cause⟩
  match tree.readLines violation.path with
  | .error fault => fail (.unreadable fault)
  | .ok lines =>
    match inserted : Comment.insertBlankLine lines violation.lineNumber with
    | .error fault => fail (.edit fault)
    | .ok patched =>
      match tree.writeLines violation.path patched with
      | .error fault => fail (.unwritable fault)
      | .ok after =>
        let line := patched.get
          ⟨violation.lineNumber - 1, Comment.lt_length_of_insertBlankLine inserted⟩
        .ok (after, line)

/-- The order in which violations are applied: the last reported first. -/
def applicationOrder (violations : List Violation) : List Violation :=
  violations.reverse

/-- What a run did: its log, the violations in the order in which they were applied, and the paths
    of the files that were repaired, each once, in the order of their first repair. -/
structure RunResult where
  log : String
  violations : List Violation
  patchedFiles : List String
  deriving Repr, DecidableEq

/-- Why a run did not come to its end. -/
inductive RunFault where
  | scan (fault : Log.ScanFault)
  | patch (fault : PatchFault)
  deriving Repr, DecidableEq

/-- The wording of a fault. -/
def RunFault.message : RunFault → String
  | .scan fault => fault.message
  | .patch fault => fault.message

/-- The outcome of a run: the tree after it, the number of violations that it announced, the
    events, and its result. -/
structure RunOutcome where
  tree : FileTree
  announced : Option Nat
  events : List Event
  result : Except RunFault RunResult

/-- Applies violations one after the other as far as they can be applied: the tree after that, the
    events, and the fault that ended it. -/
def FileTree.applyAll (tree : FileTree) (events : List Event) :
    List Violation → FileTree × List Event × Option PatchFault
  | [] => (tree, events.reverse, none)
  | violation :: rest =>
    match tree.apply violation with
    | .error fault => (tree, events.reverse, some fault)
    | .ok (after, line) => after.applyAll (.inserted line violation :: events) rest

/-- The texts of a list without those that occurred before. -/
def firstOccurrences (paths : List String) : List String :=
  (paths.foldl (fun seen path => if seen.contains path then seen else path :: seen) []).reverse

/-- Scans a log and repairs the files that it names. The path of the log is brought into its
    normal form. -/
def FileTree.run (tree : FileTree) (log : String) (matchers : List Matcher) : RunOutcome :=
  let log := Path.normal log
  let scan := Log.scan tree log matchers
  let matched := scan.findings.map Event.matched
  match scan.fault with
  | some fault => ⟨tree, none, matched, .error (.scan fault)⟩
  | none =>
    let violations := applicationOrder scan.violations
    let events := matched ++ [.found violations.length log]
    match tree.applyAll [] violations with
    | (after, inserted, some fault) =>
      ⟨after, some violations.length, events ++ inserted, .error (.patch fault)⟩
    | (after, inserted, none) =>
      ⟨after, some violations.length, events ++ inserted,
        .ok ⟨log, violations, firstOccurrences (violations.map (·.path))⟩⟩

/-- What a run prints. -/
def RunOutcome.printed (outcome : RunOutcome) : String :=
  match outcome.announced with
  | none => ""
  | some count => s!"Fixing {count} at-clause violations\n"

end JavadocRepair
