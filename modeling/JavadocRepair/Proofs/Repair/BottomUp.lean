import JavadocRepair.Proofs.Repair.Application

/-!
# Repairs from the bottom up

A run applies the violations of its log in reverse. If the log reports every file from top to
bottom, the lines above a violation are still the first lines of the file when it is applied, so it
can be applied if and only if it could be applied at first, and its blank line goes below the line
that was before the reported one at first.
-/

namespace JavadocRepair.FileTree

variable {tree now next : FileTree} {applied violations : List Violation} {violation : Violation}
  {location : Location}

/-- How many of the violations name the file at a location and report the line behind each of its
    first `lineCount` lines. -/
def blankCounts (tree : FileTree) (violations : List Violation) (location : Location)
    (lineCount : Nat) : List Nat :=
  (List.range lineCount).map fun index => violations.countP fun violation =>
    tree.locate? violation.path = some location ∧ violation.lineNumber = index + 2

/-- If two violations name the same file, the first one does not stand below the second one. -/
def NotBelow (tree : FileTree) (first second : Violation) : Prop :=
  ∀ location, tree.locate? first.path = some location →
    tree.locate? second.path = some location → first.lineNumber ≤ second.lineNumber

/-! ## Counts of blank lines -/

theorem blankCounts_nil (lineCount : Nat) :
    tree.blankCounts [] location lineCount = List.replicate lineCount 0 := by
  simp [blankCounts, List.map_const']

theorem getElem?_blankCounts (lineCount index : Nat) :
    (tree.blankCounts violations location lineCount)[index]? =
      if index < lineCount then
        some (violations.countP fun violation =>
          tree.locate? violation.path = some location ∧ violation.lineNumber = index + 2)
      else none := by
  by_cases inside : index < lineCount
  · simp [blankCounts, inside]
  · simp [blankCounts, inside]

theorem blankCounts_cons_of_elsewhere (elsewhere : tree.locate? violation.path ≠ some location)
    (lineCount : Nat) :
    tree.blankCounts (violation :: violations) location lineCount =
      tree.blankCounts violations location lineCount := by
  simp [blankCounts, elsewhere]

theorem blankCounts_cons (named : tree.locate? violation.path = some location)
    (least : 2 ≤ violation.lineNumber) (lineCount : Nat) :
    tree.blankCounts (violation :: violations) location lineCount =
      (tree.blankCounts violations location lineCount).modify (violation.lineNumber - 2)
        (· + 1) := by
  apply List.ext_getElem?
  intro index
  rw [List.getElem?_modify, getElem?_blankCounts, getElem?_blankCounts]
  by_cases inside : index < lineCount
  · rw [if_pos inside, if_pos inside, List.countP_cons]
    by_cases same : violation.lineNumber = index + 2
    · simp [named, same]
    · have other : violation.lineNumber - 2 ≠ index := by omega
      simp [named, same, other]
  · rw [if_neg inside, if_neg inside]
    rfl

/-- If no applied violation stands above a violation, there are no blank lines above the line before
    it. -/
theorem blankCounts_above (lowest : ∀ other ∈ applied, tree.NotBelow violation other)
    (named : tree.locate? violation.path = some location) (lineCount : Nat) :
    ∀ count ∈ (tree.blankCounts applied location lineCount).take (violation.lineNumber - 2),
      count = 0 := by
  intro count member
  rcases List.mem_iff_getElem?.1 member with ⟨index, found⟩
  rw [List.getElem?_take, getElem?_blankCounts] at found
  split at found
  · next above =>
    have none : applied.countP (fun other => tree.locate? other.path = some location ∧
        other.lineNumber = index + 2) = 0 := by
      rw [List.countP_eq_zero]
      intro other done
      have below := lowest other done location named
      simp only [decide_eq_true_eq, not_and]
      intro same equal
      have least := below same
      omega
    rw [none] at found
    split at found
    · cases found
      rfl
    · cases found
  · cases found

/-! ## The invariant -/

/-- What a tree is after violations have been applied to it from the bottom up: paths lead where
    they led, and text files are their first lines with a blank line for every violation. -/
structure Repaired (tree : FileTree) (applied : List Violation) (now : FileTree) : Prop where
  locate? : ∀ path, now.locate? path = tree.locate? path
  fits : ∀ location lines, tree.linesAt? location = some lines →
    Comment.Fits lines (tree.blankCounts applied location lines.length)
  linesAt? : ∀ location, now.linesAt? location = (tree.linesAt? location).map fun lines =>
    Comment.withBlanks lines (tree.blankCounts applied location lines.length)

theorem repaired_nil : Repaired tree [] tree where
  locate? _ := rfl
  fits location lines _ := by
    rw [blankCounts_nil]
    exact Comment.fits_zero lines
  linesAt? location := by
    cases tree.linesAt? location with
    | none => rfl
    | some lines => simp [blankCounts_nil]

/-- A violation that no applied one stands above can be applied if and only if it could be applied
    at first. -/
theorem Repaired.applicable_iff (repaired : Repaired tree applied now)
    (lowest : ∀ other ∈ applied, tree.NotBelow violation other) :
    now.Applicable violation ↔ tree.Applicable violation := by
  rw [← exists_apply_iff, ← exists_apply_iff, exists_apply_iff_insertBlankLine,
    exists_apply_iff_insertBlankLine]
  simp only [repaired.locate?, repaired.linesAt?, Option.map_eq_some_iff]
  constructor
  · intro success
    rcases success with ⟨location, _, named, ⟨lines, found, rfl⟩, edited⟩
    have zeros := blankCounts_above lowest named lines.length
    have fits := repaired.fits location lines found
    exact ⟨location, lines, named, found,
      (Comment.exists_insertBlankLine_withBlanks_iff fits zeros).1 edited⟩
  · intro success
    rcases success with ⟨location, lines, named, found, edited⟩
    have zeros := blankCounts_above lowest named lines.length
    have fits := repaired.fits location lines found
    exact ⟨location, _, named, ⟨lines, found, rfl⟩,
      (Comment.exists_insertBlankLine_withBlanks_iff fits zeros).2 edited⟩

/-- Applying a violation that no applied one stands above keeps the invariant. -/
theorem Repaired.apply {inserted : String} (repaired : Repaired tree applied now)
    (lowest : ∀ other ∈ applied, tree.NotBelow violation other)
    (success : now.apply violation = .ok (next, inserted)) :
    Repaired tree (violation :: applied) next := by
  rcases patched_of_apply success with ⟨location, current, patched, named, edited, change⟩
  rw [repaired.locate?] at named
  have found := change.found
  rw [repaired.linesAt?, Option.map_eq_some_iff] at found
  rcases found with ⟨lines, found, rfl⟩
  have zeros := blankCounts_above lowest named lines.length
  rcases Comment.insertBlankLine_withBlanks_bottomUp (repaired.fits location lines found) zeros
    edited with ⟨least, fits, rfl⟩
  have elsewhere {place : Location} (away : place ≠ location) :
      tree.locate? violation.path ≠ some place := by
    rw [named]
    intro same
    exact away (Option.some.inj same).symm
  refine ⟨fun path => (change.locate? path).trans (repaired.locate? path), ?_, ?_⟩
  · intro place texts there
    by_cases here : place = location
    · subst here
      rw [found] at there
      cases there
      rw [blankCounts_cons named least]
      exact fits
    · rw [blankCounts_cons_of_elsewhere (elsewhere here)]
      exact repaired.fits place texts there
  · intro place
    rw [change.linesAt?]
    by_cases here : place = location
    · subst here
      rw [if_pos rfl, found, Option.map_some, blankCounts_cons named least]
    · simp only [if_neg here, repaired.linesAt?, blankCounts_cons_of_elsewhere (elsewhere here)]

/-! ## Runs -/

/-- Violations that are applied one after the other, none of them above a later one of the same
    file, can all be applied if and only if every one of them could be applied at first. -/
theorem applyAll_bottomUp (events : List Event) (repaired : Repaired tree applied now)
    (bottomUp : violations.Pairwise fun first second => tree.NotBelow second first)
    (lowest : ∀ violation ∈ violations, ∀ other ∈ applied, tree.NotBelow violation other) :
    ((now.applyAll events violations).2.2 = none ↔
      ∀ violation ∈ violations, tree.Applicable violation) ∧
    ((now.applyAll events violations).2.2 = none →
      Repaired tree (violations.reverse ++ applied) (now.applyAll events violations).1) := by
  induction violations generalizing now applied events with
  | nil => simpa [applyAll] using repaired
  | cons violation violations ih =>
    rcases List.pairwise_cons.1 bottomUp with ⟨first, bottomUp⟩
    rcases List.forall_mem_cons.1 lowest with ⟨lowestFirst, lowest⟩
    -- nothing applied stands above this violation, so it meets the lines it was reported for
    have same := repaired.applicable_iff lowestFirst
    simp only [applyAll]
    cases success : now.apply violation with
    | error fault =>
      have inapplicable : ¬tree.Applicable violation := by
        intro applicable
        rcases exists_apply_iff.2 (same.2 applicable) with ⟨result, applied⟩
        rw [success] at applied
        cases applied
      simp [inapplicable]
    | ok result =>
      rcases result with ⟨next, line⟩
      have applicable := same.1 (exists_apply_iff.1 ⟨_, success⟩)
      have lower : ∀ later ∈ violations, ∀ other ∈ violation :: applied,
          tree.NotBelow later other := by
        intro later member
        exact List.forall_mem_cons.2 ⟨first later member, lowest later member⟩
      rcases ih (.inserted line violation :: events) (repaired.apply lowestFirst success) bottomUp
        lower with ⟨all, after⟩
      constructor
      · simpa [applicable] using all
      · simpa using after

/-- The violations of a log report every file from top to bottom. -/
def ReportsTopDown (tree : FileTree) (violations : List Violation) : Prop :=
  ∀ location, ((violations.filter fun violation => tree.locate? violation.path = some location).map
    (·.lineNumber)).Pairwise (· ≤ ·)

theorem ReportsTopDown.pairwise (topDown : tree.ReportsTopDown violations) :
    violations.Pairwise fun first second => tree.NotBelow first second := by
  rw [List.pairwise_iff_forall_sublist]
  intro first second before location firstNamed secondNamed
  have ordered := topDown location
  rw [List.pairwise_map, List.pairwise_filter, List.pairwise_iff_forall_sublist] at ordered
  exact ordered before (by simpa using firstNamed) (by simpa using secondNamed)

/-- A run whose log reports every file from top to bottom succeeds if and only if every violation of
    the log is applicable to the tree as it was, and fails on a file otherwise. If it succeeds,
    every text file is its first lines, each with one blank line below it for every violation that
    names the file and reports the next line. The log may itself be one of the files. -/
theorem run_bottomUp {log : String} {matchers : List Matcher}
    (scanned : (Log.scan tree (Path.normal log) matchers).fault = none)
    (topDown : tree.ReportsTopDown (Log.scan tree (Path.normal log) matchers).violations) :
    let violations := (Log.scan tree (Path.normal log) matchers).violations
    let outcome := tree.run log matchers
    ((∃ result, outcome.result = .ok result) ↔
      ∀ violation ∈ violations, tree.Applicable violation) ∧
    ((∃ violation ∈ violations, ¬tree.Applicable violation) →
      ∃ fault, outcome.result = .error (.patch fault)) ∧
    ((∀ violation ∈ violations, tree.Applicable violation) →
      ∀ path location lines, tree.locate? path = some location →
        tree.readLines path = .ok lines →
        outcome.tree.readLines path =
          .ok (Comment.withBlanks lines (tree.blankCounts violations location lines.length))) := by
  have reached := run_tree scanned
  have succeeds := exists_run_ok_iff scanned
  have fails (fault : PatchFault) := @run_result_of_patchFault tree log matchers fault scanned
  generalize (Log.scan tree (Path.normal log) matchers).violations = violations
    at topDown reached succeeds fails ⊢
  generalize tree.run log matchers = outcome at reached succeeds fails ⊢
  dsimp only
  have bottomUp : (applicationOrder violations).Pairwise fun first second =>
      tree.NotBelow second first := List.pairwise_reverse.2 topDown.pairwise
  rcases applyAll_bottomUp [] repaired_nil bottomUp (by simp) with ⟨all, after⟩
  have everyone : (∀ violation ∈ applicationOrder violations, tree.Applicable violation) ↔
      ∀ violation ∈ violations, tree.Applicable violation := by
    simp [applicationOrder]
  rw [everyone] at all
  refine ⟨succeeds.trans all, ?_, ?_⟩
  · intro failing
    rcases failing with ⟨violation, member, inapplicable⟩
    cases ended : (tree.applyAll [] (applicationOrder violations)).2.2 with
    | none => exact absurd (all.1 ended violation member) inapplicable
    | some fault => exact ⟨fault, fails fault ended⟩
  · intro applicable path location lines named read
    have repaired := after (all.2 applicable)
    rw [← reached, applicationOrder, List.reverse_reverse, List.append_nil] at repaired
    rcases readLines_eq_ok_iff.1 read with ⟨place, again, found⟩
    rw [named] at again
    cases again
    have there : outcome.tree.linesAt? location = some (Comment.withBlanks lines
        (tree.blankCounts violations location lines.length)) := by
      rw [repaired.linesAt?, found, Option.map_some]
    exact readLines_eq_ok_iff.2 ⟨location, (repaired.locate? path).trans named, there⟩

theorem run_bottomUp_twoFiles :
    (Log.scan twoFiles (Path.normal "log") [colonMatcher]).fault = none ∧
    twoFiles.ReportsTopDown (Log.scan twoFiles (Path.normal "log") [colonMatcher]).violations ∧
    (∀ violation ∈ (Log.scan twoFiles (Path.normal "log") [colonMatcher]).violations,
      twoFiles.Applicable violation) ∧
    (∃ result, (twoFiles.run "log" [colonMatcher]).result = .ok result) ∧
    (twoFiles.run "log" [colonMatcher]).tree.readLines "A" =
      .ok [" * a", " *", " * b", " *", " *"] := by
  have scanned : (Log.scan twoFiles (Path.normal "log") [colonMatcher]).fault = none := by
    decide +kernel
  have found : (Log.scan twoFiles (Path.normal "log") [colonMatcher]).violations =
      [⟨"A", 2, by decide⟩, ⟨"A", 3, by decide⟩, ⟨"B", 2, by decide⟩, ⟨"A", 3, by decide⟩] := by
    decide +kernel
  have first : twoFiles.locate? "A" = some ["A"] := by decide +kernel
  have second : twoFiles.locate? "B" = some ["B"] := by decide +kernel
  have firstLines : twoFiles.readLines "A" = .ok [" * a", " * b"] :=
    readLines_eq_ok_iff.2 ⟨["A"], first, by decide +kernel⟩
  have secondLines : twoFiles.readLines "B" = .ok ["/**"] :=
    readLines_eq_ok_iff.2 ⟨["B"], second, by decide +kernel⟩
  have topDown : twoFiles.ReportsTopDown
      (Log.scan twoFiles (Path.normal "log") [colonMatcher]).violations := by
    intro location
    rw [found, List.pairwise_map, List.pairwise_filter]
    by_cases here : location = ["A"]
    · simp [here, first, second]
    · simp [first, second, Ne.symm here]
  have applicable : ∀ violation ∈
      (Log.scan twoFiles (Path.normal "log") [colonMatcher]).violations,
      twoFiles.Applicable violation := by
    rw [found]
    simp only [List.forall_mem_cons, List.not_mem_nil, IsEmpty.forall_iff, implies_true, and_true]
    refine ⟨?_, ?_, ?_, ?_⟩
    · exact ⟨_, " * a", firstLines, by decide, by decide, rfl, by decide⟩
    · exact ⟨_, " * b", firstLines, by decide, by decide, rfl, by decide⟩
    · exact ⟨_, "/**", secondLines, by decide, by decide, rfl, by decide⟩
    · exact ⟨_, " * b", firstLines, by decide, by decide, rfl, by decide⟩
  have repaired : Comment.withBlanks [" * a", " * b"] (twoFiles.blankCounts
      (Log.scan twoFiles (Path.normal "log") [colonMatcher]).violations ["A"] 2) =
      [" * a", " *", " * b", " *", " *"] := by decide +kernel
  refine ⟨scanned, topDown, applicable, (run_bottomUp scanned topDown).1.2 applicable, ?_⟩
  rw [← repaired]
  exact (run_bottomUp scanned topDown).2.2 applicable "A" ["A"] _ first firstLines

end JavadocRepair.FileTree
