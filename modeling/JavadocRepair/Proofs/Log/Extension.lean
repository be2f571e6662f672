import JavadocRepair.Proofs.Configuration.Format
import JavadocRepair.Proofs.Log.Line
import JavadocRepair.Proofs.Log.Scan

/-!
# Scans with more matchers

Matchers that are added behind others decide only the lines that none of the others matches. So a
scan with more matchers finds what the scan without them finds, in its place and unchanged, and
besides that only what the added matchers find in those lines. A fault of a line that one of the
first matchers matches stays a fault.
-/

namespace JavadocRepair.Log

variable {tree : FileTree} {log line : String} {lines : List String} {first more : List Matcher}

/-- One of the matchers matches a line. -/
def recognises (matchers : List Matcher) (line : String) : Bool :=
  matchers.any fun matcher => (matcher.pattern.match? line).isSome

/-! ## Lines -/

theorem isSome_firstMatch? (matchers : List Matcher) (line : String) :
    (firstMatch? line matchers).isSome = recognises matchers line := by
  rw [Bool.eq_iff_iff, firstMatch?, List.findSome?_isSome_iff]
  simp [recognises]

/-- A line that no matcher matches reports nothing and has no fault. -/
theorem readLine_of_not_recognises (unknown : recognises first line = false) :
    readLine line first = .ok none := by
  rw [← isSome_firstMatch?, Option.isSome_eq_false_iff, Option.isNone_iff_eq_none] at unknown
  rw [readLine_eq, unknown]

/-- A line that a matcher matches reports a violation or has a fault. -/
theorem readLine_ne_of_recognises (known : recognises first line = true) :
    readLine line first ≠ .ok none := by
  rw [← isSome_firstMatch?] at known
  rcases Option.isSome_iff_exists.1 known with ⟨⟨matcher, groups⟩, found⟩
  rw [readLine_eq, found]
  dsimp only
  split <;> simp

/-- A line is read by the first matchers, and by those behind them if none of the first matches. -/
theorem readLine_append (line : String) (first more : List Matcher) :
    readLine line (first ++ more) =
      if recognises first line then readLine line first else readLine line more := by
  rw [readLine_eq, readLine_eq line first, readLine_eq line more, ← isSome_firstMatch?,
    firstMatch?, List.findSome?_append, ← firstMatch?, ← firstMatch?]
  cases firstMatch? line first <;> rfl

theorem lineFault?_append (line : String) (first more : List Matcher) :
    lineFault? (first ++ more) line =
      if recognises first line then lineFault? first line else lineFault? more line := by
  rw [lineFault?, readLine_append]
  cases recognises first line <;> rfl

theorem violation?_append (line : String) (first more : List Matcher) :
    violation? (first ++ more) line =
      if recognises first line then violation? first line else violation? more line := by
  rw [violation?, finding?, readLine_append]
  cases recognises first line <;> rfl

theorem violation?_of_not_recognises (unknown : recognises first line = false) :
    violation? first line = none := by
  simp [violation?, finding?, readLine_of_not_recognises unknown]

theorem exists_violation?_of_recognises (known : recognises first line = true)
    (good : lineFault? first line = none) :
    ∃ violation, violation? first line = some violation := by
  cases read : readLine line first with
  | error fault => simp [lineFault?, read] at good
  | ok report =>
    cases report with
    | none => exact absurd read (readLine_ne_of_recognises known)
    | some finding => exact ⟨finding.violation, by simp [violation?, finding?, read]⟩

/-! ## Scans -/

/-- The scan of a log with some matchers and that with more matchers behind them, line by line. -/
structure Extends (tree : FileTree) (log : String) (first more : List Matcher)
    (lines : List String) : Prop where
  read : tree.readLines log = .ok lines
  scanned : (scan tree log first).fault = none
  violations : (scan tree log first).violations = lines.filterMap (violation? first)
  extended : (scan tree log (first ++ more)).violations =
    lines.filterMap (violation? (first ++ more))
  recognised : ∀ line ∈ lines, recognises first line = true →
    ∃ violation, violation? first line = some violation ∧
      violation? (first ++ more) line = some violation
  unknown : ∀ line ∈ lines, recognises first line = false →
    violation? first line = none ∧ violation? (first ++ more) line = violation? more line

theorem extends_of_scan (scanned : (scan tree log (first ++ more)).fault = none) :
    ∃ lines, Extends tree log first more lines := by
  rcases exists_text_of_scan scanned with ⟨chars, readable⟩
  have good := (scan_fault_eq_none_iff readable).1 scanned
  have goodFirst : ∀ line ∈ Text.lines chars, lineFault? first line = none := by
    intro line member
    cases known : recognises first line with
    | true => simpa [lineFault?_append, known] using good line member
    | false => simp [lineFault?, readLine_of_not_recognises known]
  have scannedFirst := (scan_fault_eq_none_iff readable).2 goodFirst
  refine ⟨Text.lines chars, readLines_encode readable, scannedFirst,
    scan_violations readable scannedFirst, scan_violations readable scanned, ?_, ?_⟩
  · intro line member known
    rcases exists_violation?_of_recognises known (goodFirst line member) with ⟨violation, found⟩
    exact ⟨violation, found, by rw [violation?_append, if_pos known, found]⟩
  · intro line _ unknown
    exact ⟨violation?_of_not_recognises unknown, by simp [violation?_append, unknown]⟩

/-- What the first matchers find is what all matchers find in the lines that the first recognise. -/
theorem Extends.violations_eq (all : Extends tree log first more lines) :
    (scan tree log first).violations =
      (lines.filter (recognises first)).filterMap (violation? (first ++ more)) := by
  rw [all.violations, List.filterMap_filter]
  apply List.filterMap_congr
  intro line member
  cases known : recognises first line with
  | true =>
    rcases all.recognised line member known with ⟨violation, found, kept⟩
    simp [found, kept]
  | false => simp [(all.unknown line member known).1]

theorem Extends.sublist (all : Extends tree log first more lines) :
    (scan tree log first).violations.Sublist (scan tree log (first ++ more)).violations := by
  rw [all.violations_eq, all.extended]
  exact List.filter_sublist.filterMap _

/-- What all matchers find besides what the first find is what the added matchers find in the lines
    that the first do not recognise. -/
theorem Extends.perm (all : Extends tree log first more lines) :
    (scan tree log (first ++ more)).violations.Perm ((scan tree log first).violations ++
      (lines.filter fun line => !recognises first line).filterMap (violation? more)) := by
  have added : (lines.filter fun line => !recognises first line).filterMap (violation? more) =
      (lines.filter fun line => !recognises first line).filterMap
        (violation? (first ++ more)) := by
    apply List.filterMap_congr
    intro line member
    rcases List.mem_filter.1 member with ⟨inside, unknown⟩
    exact ((all.unknown line inside (by simpa using unknown)).2).symm
  rw [all.extended, all.violations_eq, added, ← List.filterMap_append]
  exact (List.filter_append_perm (recognises first) lines).symm.filterMap _

/-- A scan with some matchers and one with more matchers behind them, which differ by what the added
    matchers find in the lines that the first do not recognise. -/
def Grows (tree : FileTree) (log : String) (first more : List Matcher) : Prop :=
  ∃ lines, Extends tree log first more lines ∧
    (scan tree log first).violations.Sublist (scan tree log (first ++ more)).violations ∧
    (scan tree log (first ++ more)).violations.Perm ((scan tree log first).violations ++
      (lines.filter fun line => !recognises first line).filterMap (violation? more))

theorem grows_of_scan (scanned : (scan tree log (first ++ more)).fault = none) :
    Grows tree log first more := by
  rcases extends_of_scan scanned with ⟨lines, all⟩
  exact ⟨lines, all, all.sublist, all.perm⟩

/-- A configuration file that keeps the built-in matchers adds its own behind them. -/
theorem exists_custom_of_load {host : Host} {path : String} {includeBuiltin : Option Bool}
    {matchers : List Matcher}
    (loaded : Configuration.load host tree path includeBuiltin = .ok matchers) :
    ∃ bytes fields, tree.read (Path.normal path) = .ok bytes ∧
      Document.ofBytes? .standard bytes = some (.object fields) ∧
      (Configuration.KeepsBuiltin fields includeBuiltin →
        ∃ custom, matchers = Matcher.builtin ++ custom) := by
  cases readable : tree.read (Path.normal path) with
  | error fault => cases fault <;> simp [Configuration.load, readable] at loaded
  | ok bytes =>
    rw [Configuration.load_eq_ofBytes readable] at loaded
    rcases Configuration.ofBytes_eq_ok_iff.1 loaded with ⟨fields, parsed, admits, made⟩
    refine ⟨bytes, fields, rfl, parsed, ?_⟩
    intro kept
    have replaces := (Configuration.fileSchema_admits_iff.1 admits).2.1
    cases listed : Matcher.ofEntries host (Configuration.entriesOf fields) with
    | error fault => simp [Configuration.matchersOf, listed] at made
    | ok custom =>
      refine ⟨custom, ?_⟩
      rw [((Configuration.matchersOf_eq_ok_iff listed).1 made).1,
        if_pos ((Configuration.keepsBuiltin_iff replaces).1 kept)]

/-- Adding matchers behind others is conservative. A line gives what the first matchers make of it,
    be it a violation or a fault, and what the added ones make of it if the first find nothing. So a
    log that can be scanned to its end with all matchers can be scanned with the first alone, which
    find some of the violations in the same order. A line that the first matchers recognise reports
    the same violation to both scans, and the violations that come in addition are those that the
    added matchers find in all other lines. This holds of the built-in matchers and those of every
    configuration file that keeps them. -/
theorem scan_appended_matchers :
    (∀ line first more, readLine line (first ++ more) =
      match readLine line first with
      | .ok none => readLine line more
      | outcome => outcome) ∧
    (∀ tree log first more, (scan tree log (first ++ more)).fault = none →
      (scan tree log first).fault = none ∧ Grows tree log first more) ∧
    ∀ host tree path includeBuiltin matchers,
      Configuration.load host tree path includeBuiltin = .ok matchers →
      ∃ bytes fields, tree.read (Path.normal path) = .ok bytes ∧
        Document.ofBytes? .standard bytes = some (.object fields) ∧
        (Configuration.KeepsBuiltin fields includeBuiltin →
          ∃ custom, matchers = Matcher.builtin ++ custom ∧
            ∀ other log, (scan other log matchers).fault = none →
              (scan other log Matcher.builtin).fault = none ∧
                Grows other log Matcher.builtin custom) := by
  have grows (tree : FileTree) (log : String) (first more : List Matcher)
      (scanned : (scan tree log (first ++ more)).fault = none) :
      (scan tree log first).fault = none ∧ Grows tree log first more := by
    rcases grows_of_scan scanned with ⟨lines, all, found⟩
    exact ⟨all.scanned, lines, all, found⟩
  refine ⟨?_, grows, ?_⟩
  · intro line first more
    rw [readLine_append]
    cases known : recognises first line with
    | true =>
      have decided := readLine_ne_of_recognises known
      rw [if_pos rfl]
      split
      · next nothing => exact absurd nothing decided
      · rfl
    | false => simp [readLine_of_not_recognises known]
  · intro host tree path includeBuiltin matchers loaded
    rcases exists_custom_of_load loaded with ⟨bytes, fields, readable, parsed, behind⟩
    refine ⟨bytes, fields, readable, parsed, ?_⟩
    intro kept
    rcases behind kept with ⟨custom, rfl⟩
    exact ⟨custom, rfl, fun other log => grows other log _ _⟩

/-- A matcher for lines that are a path, a mark and a line number. -/
def markMatcher (mark : String) : Matcher where
  name := mark
  pattern :=
    ⟨"(.*)" ++ mark ++ "(\\d+)",
      .sequenceOf (Pattern.pathNode 1 :: Pattern.literal mark ++ [Pattern.digitsNode 2]), 2, []⟩
  pathGroup := .number 1
  lineGroup := .number 2
  hasPathGroup := rfl
  hasLineGroup := rfl

/-- A log with two marks and a line that has none, and a file that adds one of the marks. -/
def twoMarks : FileTree where
  entries := [(["log"], .file (Text.bytesOfLines ["A:2", "noise", "B#3", "C#4:5"])),
    (["config"], .file (Text.bytesOfLines [
      "\x7b\"matchers\": [\x7b\"name\": \"colon\", \"pattern\": \"(.*):(\\\\d+)\"\x7d]\x7d"]))]
  workingDirectory := []

theorem scan_appended_matchers_twoMarks :
    (scan twoMarks "log" ([markMatcher ":"] ++ [markMatcher "#"])).fault = none ∧
    (scan twoMarks "log" [markMatcher ":"]).fault = none ∧
    (scan twoMarks "log" ([markMatcher ":"] ++ [markMatcher "#"])).violations =
      [⟨"A", 2, by decide⟩, ⟨"B", 3, by decide⟩, ⟨"C#4", 5, by decide⟩] ∧
    Grows twoMarks "log" [markMatcher ":"] [markMatcher "#"] ∧
    ∃ matchers, Configuration.load .ascii twoMarks "config" (some true) = .ok matchers ∧
      (scan twoMarks "log" matchers).fault = none ∧
      (scan twoMarks "log" matchers).violations =
        [⟨"A", 2, by decide⟩, ⟨"C#4", 5, by decide⟩] ∧
      ∃ custom, matchers = Matcher.builtin ++ custom ∧
        Grows twoMarks "log" Matcher.builtin custom := by
  have scanned : (scan twoMarks "log" ([markMatcher ":"] ++ [markMatcher "#"])).fault = none := by
    decide +kernel
  have configured : (Configuration.load .ascii twoMarks "config" (some true)).toOption.map
      (fun matchers => ((scan twoMarks "log" matchers).fault,
        (scan twoMarks "log" matchers).violations)) =
      some (none, [⟨"A", 2, by decide⟩, ⟨"C#4", 5, by decide⟩]) := by decide +kernel
  rcases scan_appended_matchers with ⟨_, appended, behind⟩
  rcases appended _ _ _ _ scanned with ⟨fewer, grows⟩
  refine ⟨scanned, fewer, by decide +kernel, grows, ?_⟩
  cases loaded : Configuration.load .ascii twoMarks "config" (some true) with
  | error fault => simp [loaded, Except.toOption] at configured
  | ok matchers =>
    simp only [loaded, Except.toOption, Option.map_some, Option.some.injEq, Prod.mk.injEq]
      at configured
    rcases configured with ⟨scanned, found⟩
    rcases behind _ _ _ _ _ loaded with ⟨_, fields, _, _, kept⟩
    rcases kept (.inl rfl) with ⟨custom, whole, extended⟩
    exact ⟨matchers, rfl, scanned, found, custom, whole, (extended _ _ scanned).2⟩

end JavadocRepair.Log
