import JavadocRepair.Proofs.Repair.Application

/-!
# What repairs leave of a file

Whatever is applied to a tree, in which order and with what success, a file that was repaired is
its first lines with blank lines below some of them, and a file that was not repaired is as it was.
The bytes of a repaired file are those of these lines, each followed by a line feed.
-/

namespace JavadocRepair

/-- The violation whose blank line an event reports. -/
def Event.applied? : Event → Option Violation
  | .inserted _ violation => some violation
  | _ => none

/-- A call that repairs files: one violation is applied, or those that a log reports. -/
inductive RepairCall where
  | apply (violation : Violation)
  | run (log : String) (matchers : List Matcher)

namespace FileTree

/-- The tree after a call, whether it succeeds or not, and the violations that were applied. -/
def perform (tree : FileTree) : RepairCall → FileTree × List Violation
  | .apply violation =>
    match tree.apply violation with
    | .ok (after, _) => (after, [violation])
    | .error _ => (tree, [])
  | .run log matchers =>
    let outcome := tree.run log matchers
    (outcome.tree, outcome.events.filterMap Event.applied?)

/-- The tree after calls, one after the other, and the violations that were applied. -/
def performAll (tree : FileTree) : List RepairCall → FileTree × List Violation
  | [] => (tree, [])
  | call :: calls =>
    let (next, first) := tree.perform call
    let (after, later) := next.performAll calls
    (after, first ++ later)

/-! ## Calls as sequences of applications -/

/-- Violations that are applied with success, one after the other. -/
inductive Applications : FileTree → List Violation → FileTree → Prop
  | nil {tree : FileTree} : Applications tree [] tree
  | cons {tree next after : FileTree} {violation : Violation} {inserted : String}
      {violations : List Violation} (first : tree.apply violation = .ok (next, inserted))
      (later : Applications next violations after) :
      Applications tree (violation :: violations) after

theorem Applications.append {tree next after : FileTree} {xs ys : List Violation}
    (first : Applications tree xs next) (later : Applications next ys after) :
    Applications tree (xs ++ ys) after := by
  induction first with
  | nil => exact later
  | cons applied _ ih => exact .cons applied (ih later)

/-- Violations are applied from the first on, as many as can be, and these are reported. -/
theorem applyAll_applications (tree : FileTree) (events : List Event)
    (violations : List Violation) :
    ∃ applied, applied <+: violations ∧
      Applications tree applied (tree.applyAll events violations).1 ∧
      (tree.applyAll events violations).2.1.filterMap Event.applied? =
        events.reverse.filterMap Event.applied? ++ applied := by
  induction violations generalizing tree events with
  | nil => exact ⟨[], List.prefix_rfl, .nil, by simp [applyAll]⟩
  | cons violation violations ih =>
    simp only [applyAll]
    cases applied : tree.apply violation with
    | error fault => exact ⟨[], List.nil_prefix, .nil, by simp⟩
    | ok result =>
      rcases result with ⟨next, line⟩
      rcases ih next (.inserted line violation :: events) with
        ⟨later, front, applications, reported⟩
      refine ⟨violation :: later, List.cons_prefix_cons.2 ⟨rfl, front⟩,
        .cons applied applications, ?_⟩
      rw [reported]
      simp [Event.applied?]

/-- The events of a scan report no violation as applied. -/
theorem filterMap_matched (findings : List Log.Finding) :
    (findings.map Event.matched).filterMap Event.applied? = [] := by
  induction findings with
  | nil => rfl
  | cons finding findings ih => exact ih

/-- A run whose log can be scanned reports those violations as applied that were. -/
theorem run_applied {tree : FileTree} {log : String} {matchers : List Matcher}
    (scanned : (Log.scan tree (Path.normal log) matchers).fault = none) :
    (tree.run log matchers).events.filterMap Event.applied? =
      (tree.applyAll [] (applicationOrder
        (Log.scan tree (Path.normal log) matchers).violations)).2.1.filterMap Event.applied? := by
  rw [run_of_scanned scanned]
  dsimp only
  rw [List.filterMap_append, List.filterMap_append, filterMap_matched]
  simp [Event.applied?]

/-- What a run changes is what the violations change that its events report as applied. -/
theorem run_applications (tree : FileTree) (log : String) (matchers : List Matcher) :
    Applications tree ((tree.run log matchers).events.filterMap Event.applied?)
      (tree.run log matchers).tree := by
  cases scanned : (Log.scan tree (Path.normal log) matchers).fault with
  | some fault =>
    rw [run_of_fault scanned, filterMap_matched]
    exact .nil
  | none =>
    obtain ⟨applied, _, applications, reported⟩ := applyAll_applications tree []
      (applicationOrder (Log.scan tree (Path.normal log) matchers).violations)
    rw [run_applied scanned, run_tree scanned, reported]
    exact applications

theorem perform_applications (tree : FileTree) (call : RepairCall) :
    Applications tree (tree.perform call).2 (tree.perform call).1 := by
  cases call with
  | apply violation =>
    cases applied : tree.apply violation with
    | error fault =>
      simp only [perform, applied]
      exact .nil
    | ok result =>
      simp only [perform, applied]
      exact .cons applied .nil
  | run log matchers => exact run_applications tree log matchers

theorem performAll_applications (tree : FileTree) (calls : List RepairCall) :
    Applications tree (tree.performAll calls).2 (tree.performAll calls).1 := by
  induction calls generalizing tree with
  | nil => exact .nil
  | cons call calls ih => exact (perform_applications tree call).append (ih _)

/-! ## The invariant -/

/-- The violations of a list whose paths name the file at a location. -/
def violationsAt (tree : FileTree) (violations : List Violation) (location : Location) :
    List Violation :=
  violations.filter fun violation => tree.locate? violation.path = some location

/-- What is left of a tree after violations have been applied to it. -/
structure Keeps (tree : FileTree) (applied : List Violation) (now : FileTree) : Prop where
  locate? : ∀ path, now.locate? path = tree.locate? path
  untouched : ∀ location, tree.violationsAt applied location = [] →
    now.entryAt? location = tree.entryAt? location
  touched : ∀ location, tree.violationsAt applied location ≠ [] →
    ∃ bytes lines counts, tree.entryAt? location = some (.file bytes) ∧
      Text.linesOfBytes bytes = .ok lines ∧ Comment.Fits lines counts ∧
      counts.sum = (tree.violationsAt applied location).length ∧
      now.entryAt? location =
        some (.file (Text.bytesOfLines (Comment.withBlanks lines counts)))

variable {tree now next : FileTree} {applied : List Violation}

theorem keeps_nil : Keeps tree [] tree where
  locate? _ := rfl
  untouched _ _ := rfl
  touched _ repaired := absurd rfl repaired

/-- The lines of a file, repaired or not, are its first lines with blank lines below some. -/
theorem Keeps.exists_counts (keeps : Keeps tree applied now) {location : Location}
    {current : List String} (found : now.linesAt? location = some current) :
    ∃ bytes lines counts, tree.entryAt? location = some (.file bytes) ∧
      Text.linesOfBytes bytes = .ok lines ∧ Comment.Fits lines counts ∧
      counts.sum = (tree.violationsAt applied location).length ∧
      current = Comment.withBlanks lines counts := by
  rcases linesAt?_eq_some_iff.1 found with ⟨content, there, read⟩
  by_cases repaired : tree.violationsAt applied location = []
  · rw [keeps.untouched location repaired] at there
    refine ⟨content, current, _, there, read, Comment.fits_zero current, ?_, ?_⟩
    · simp [repaired]
    · rw [Comment.withBlanks_zero]
  · obtain ⟨bytes, lines, counts, first, firstRead, fits, sum, entry⟩ :=
      keeps.touched location repaired
    rw [entry] at there
    cases there
    -- what was written is read back as it was, so the current lines have the closed form again
    have each := Comment.isLine_withBlanks fits (Text.isLine_of_linesOfBytes firstRead)
    rw [Text.linesOfBytes_bytesOfLines each] at read
    cases read
    exact ⟨bytes, lines, counts, first, firstRead, fits, sum, rfl⟩

/-- One more application keeps what the applications before it kept. -/
theorem Keeps.apply {violation : Violation} {inserted : String}
    (keeps : Keeps tree applied now) (success : now.apply violation = .ok (next, inserted)) :
    Keeps tree (applied ++ [violation]) next := by
  rcases patched_of_apply success with ⟨location, current, patched, named, edited, change⟩
  rw [keeps.locate?] at named
  have more (place : Location) : tree.violationsAt (applied ++ [violation]) place =
      tree.violationsAt applied place ++ if place = location then [violation] else [] := by
    by_cases here : place = location
    · simp [violationsAt, List.filter_append, named, here]
    · have elsewhere : ¬location = place := Ne.symm here
      simp [violationsAt, List.filter_append, named, here, elsewhere]
  refine ⟨fun path => (change.locate? path).trans (keeps.locate? path), ?_, ?_⟩
  · intro place untouched
    rw [more] at untouched
    rcases List.append_eq_nil_iff.1 untouched with ⟨before, elsewhere⟩
    have away : place ≠ location := by
      rintro rfl
      simp at elsewhere
    rw [change.entryAt?, if_neg away]
    exact keeps.untouched place before
  · intro place touched
    rw [more] at touched ⊢
    rw [change.entryAt?]
    by_cases here : place = location
    · subst here
      obtain ⟨bytes, lines, counts, there, read, fits, sum, rfl⟩ :=
        keeps.exists_counts change.found
      rcases Comment.insertBlankLine_withBlanks fits edited with ⟨counts', fits', sum', rfl⟩
      refine ⟨bytes, lines, counts', there, read, fits', ?_, by rw [if_pos rfl]⟩
      simp [sum', sum]
    · rw [if_neg here, List.append_nil] at touched ⊢
      rw [if_neg here]
      exact keeps.touched place touched

theorem Applications.keeps {after : FileTree} {violations : List Violation}
    (applications : Applications now violations after) (keeps : Keeps tree applied now) :
    Keeps tree (applied ++ violations) after := by
  induction applications generalizing applied with
  | nil => simpa using keeps
  | cons success _ ih => simpa using ih (keeps.apply success)

/-- Nothing that stood in a file is lost, changed or put elsewhere by any sequence of calls. A file
    to which violations were applied holds its first lines, each with some copies of its blank line
    below it, as many in all as there were violations, and none below a line without an asterisk.
    Everything else is as it was, and all paths lead where they led. -/
theorem entryAt?_performAll (tree : FileTree) (calls : List RepairCall) :
    (∀ path, (tree.performAll calls).1.locate? path = tree.locate? path) ∧
    ∀ location,
      (tree.violationsAt (tree.performAll calls).2 location = [] →
        (tree.performAll calls).1.entryAt? location = tree.entryAt? location) ∧
      (tree.violationsAt (tree.performAll calls).2 location ≠ [] →
        ∃ bytes lines counts, tree.entryAt? location = some (.file bytes) ∧
          Text.linesOfBytes bytes = .ok lines ∧ Comment.Fits lines counts ∧
          counts.sum = (tree.violationsAt (tree.performAll calls).2 location).length ∧
          (tree.performAll calls).1.entryAt? location =
            some (.file (Text.bytesOfLines (Comment.withBlanks lines counts)))) := by
  have keeps := (performAll_applications tree calls).keeps keeps_nil
  rw [List.nil_append] at keeps
  exact ⟨keeps.locate?, fun location => ⟨keeps.untouched location, keeps.touched location⟩⟩

/-- Calls of which two fail: a run, a run without a log, a violation in a line that was inserted, by
    another name of its file, and one far below the end. -/
def someCalls : List RepairCall :=
  [.run "log" [colonMatcher], .run "missing" [], .apply ⟨"./A", 3, by decide⟩,
    .apply ⟨"A", 99, by decide⟩]

theorem entryAt?_performAll_someCalls :
    twoFiles.violationsAt (twoFiles.performAll someCalls).2 ["log"] = [] ∧
    (twoFiles.performAll someCalls).1.entryAt? ["log"] = twoFiles.entryAt? ["log"] ∧
    twoFiles.violationsAt (twoFiles.performAll someCalls).2 ["A"] ≠ [] ∧
    ∃ counts, Comment.Fits [" * a", " * b"] counts ∧ counts.sum = 4 ∧
      (twoFiles.performAll someCalls).1.entryAt? ["A"] =
        some (.file (Text.bytesOfLines (Comment.withBlanks [" * a", " * b"] counts))) := by
  have untouched : twoFiles.violationsAt (twoFiles.performAll someCalls).2 ["log"] = [] := by
    decide +kernel
  have touched : (twoFiles.violationsAt (twoFiles.performAll someCalls).2 ["A"]).length = 4 := by
    decide +kernel
  have repaired : twoFiles.violationsAt (twoFiles.performAll someCalls).2 ["A"] ≠ [] := by
    intro none
    rw [none] at touched
    cases touched
  have there : twoFiles.entryAt? ["A"] =
      some (.file (Text.bytesOfLines [" * a", " * b"])) := rfl
  have kept := (entryAt?_performAll twoFiles someCalls).2
  refine ⟨untouched, (kept ["log"]).1 untouched, repaired, ?_⟩
  rcases (kept ["A"]).2 repaired with ⟨bytes, lines, counts, first, read, fits, sum, last⟩
  rw [there] at first
  cases first
  have each : ∀ text ∈ [" * a", " * b"], Text.IsLine text.toList := by
    unfold Text.IsLine
    decide
  rw [Text.linesOfBytes_bytesOfLines each] at read
  cases read
  exact ⟨counts, fits, sum.trans touched, last⟩

end FileTree

end JavadocRepair
