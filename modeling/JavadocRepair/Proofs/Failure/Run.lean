import JavadocRepair.Failure
import JavadocRepair.Proofs.Files.Path
import JavadocRepair.Proofs.Log.Diagnostic
import JavadocRepair.Proofs.Log.Line
import JavadocRepair.Proofs.Log.Scan
import JavadocRepair.Proofs.Repair.Application

/-!
# Failures of runs

A run that fails does so for an unreadable log, a line that reports nonsense or a file that cannot
be repaired, and each of these failures has a class. There is one exception: a line number with
more digits than are converted ends the run with a failure that has none.
-/

namespace JavadocRepair

namespace Log

variable {line : String} {matchers : List Matcher} {fault : LineFault}

/-- The fault of a line names the line, and has a class unless the line is overlong. -/
theorem failureClass?_of_readLine (failed : readLine line matchers = .error fault) :
    fault.line = line ∧
      (¬Overlong matchers line → fault.failureClass? = some .unparsableViolation) ∧
      (Overlong matchers line → fault.failureClass? = none) := by
  by_cases overlong : Overlong matchers line
  · rcases readLine_of_overlong overlong with ⟨digits, refused⟩
    rw [refused] at failed
    cases failed
    exact ⟨rfl, fun short => absurd overlong short, fun _ => rfl⟩
  · rcases fault_of_readLine failed overlong with ⟨same, problem⟩
    refine ⟨same, ?_, fun long => absurd long overlong⟩
    intro _
    rcases problem with ⟨name, noPath⟩ | ⟨numeral, badLineNumber⟩
    · simp [LineFault.failureClass?, noPath]
    · simp [LineFault.failureClass?, badLineNumber]

theorem lineFault?_eq_some_iff :
    lineFault? matchers line = some fault ↔ readLine line matchers = .error fault := by
  cases read : readLine line matchers with
  | ok report => simp [lineFault?, read]
  | error found => simp [lineFault?, read]

/-- What ends a scan early is the decoder, or the fault of a line. -/
theorem exists_readLine_of_scanBytes {bytes : List UInt8}
    (ended : (scanBytes matchers bytes).fault = some (.line fault)) :
    ∃ line, readLine line matchers = .error fault := by
  by_cases text : ∃ chars, bytes = Text.Utf8.encode chars
  · rcases text with ⟨chars, rfl⟩
    rw [scanBytes_encode, Scan.mapFault, Option.map_eq_some_iff] at ended
    rcases ended with ⟨found, first, same⟩
    cases same
    rcases reports_fault_eq_some_iff.1 first with ⟨_, line, _, _, _, bad⟩
    exact ⟨line, lineFault?_eq_some_iff.1 bad⟩
  · have undecodable (chars : List Char) : bytes ≠ Text.Utf8.encode chars := by
      intro same
      exact text ⟨chars, same⟩
    rcases scanBytes_endsEarly matchers undecodable with
      ⟨found, decoding⟩ | ⟨_, _, _, line, _, found, _, _, _, bad, last⟩
    · rw [ended] at decoding
      cases decoding
    · rw [ended] at last
      cases last
      exact ⟨line, lineFault?_eq_some_iff.1 bad⟩

/-- The scan of a log ends at an overlong line. -/
def EndsOverlong (tree : FileTree) (path : String) (matchers : List Matcher) : Prop :=
  ∃ fault, (scan tree path matchers).fault = some (.line fault) ∧ Overlong matchers fault.line

/-- A scan ends early because its log cannot be read, or at a line with a fault. -/
theorem scan_fault_cases {tree : FileTree} {path : String} {fault : ScanFault}
    (readable : tree.read path ≠ .error .embeddedNull)
    (failed : (scan tree path matchers).fault = some fault) :
    (∃ place reason, fault = .unreadable place reason) ∨
      ∃ line found, fault = .line found ∧ readLine line matchers = .error found := by
  unfold scan at failed
  split at failed
  · next null => exact absurd null readable
  · cases failed
    exact .inl ⟨_, _, rfl⟩
  · next bytes _ =>
    rw [Scan.mapFault, Option.map_eq_some_iff] at failed
    rcases failed with ⟨found, ended, same⟩
    cases found with
    | decode _ =>
      cases same
      exact .inl ⟨_, _, rfl⟩
    | line found =>
      cases same
      rcases exists_readLine_of_scanBytes ended with ⟨line, bad⟩
      exact .inr ⟨line, found, rfl, bad⟩

/-- The fault of a scan has a class if and only if the scan does not end at an overlong line, unless
    the path has a null character. -/
theorem failureClass?_of_scan {tree : FileTree} {path : String} {fault : ScanFault}
    (readable : tree.read path ≠ .error .embeddedNull)
    (failed : (scan tree path matchers).fault = some fault) :
    (¬EndsOverlong tree path matchers →
      fault.failureClass? = some .unreadableLog ∨
        fault.failureClass? = some .unparsableViolation) ∧
    (EndsOverlong tree path matchers → fault.failureClass? = none) := by
  rcases scan_fault_cases readable failed with ⟨place, reason, rfl⟩ | ⟨line, found, rfl, bad⟩
  · refine ⟨fun _ => .inl rfl, ?_⟩
    intro overlong
    rcases overlong with ⟨found, ended, _⟩
    rw [failed] at ended
    cases ended
  · rcases failureClass?_of_readLine bad with ⟨rfl, classified, unclassified⟩
    refine ⟨?_, ?_⟩
    · intro short
      refine .inr (classified ?_)
      intro overlong
      exact short ⟨found, failed, overlong⟩
    · intro overlong
      rcases overlong with ⟨other, ended, overlong⟩
      rw [failed] at ended
      cases ended
      exact unclassified overlong

/-- The scan of a text ends at an overlong line if and only if the first line with a fault is
    overlong. -/
theorem endsOverlong_iff {tree : FileTree} {path : String} {chars : List Char}
    (readable : tree.read path = .ok (Text.Utf8.encode chars)) :
    EndsOverlong tree path matchers ↔
      ∃ before line after, Text.lines chars = before ++ line :: after ∧
        (∀ earlier ∈ before, lineFault? matchers earlier = none) ∧ Overlong matchers line := by
  simp only [EndsOverlong, scan_encode readable, Scan.mapFault, Option.map_eq_some_iff]
  constructor
  · intro ends
    rcases ends with ⟨fault, ⟨found, first, same⟩, overlong⟩
    cases same
    rcases reports_fault_eq_some_iff.1 first with ⟨before, line, after, split, good, bad⟩
    rw [(failureClass?_of_readLine (lineFault?_eq_some_iff.1 bad)).1] at overlong
    exact ⟨before, line, after, split, good, overlong⟩
  · intro parts
    rcases parts with ⟨before, line, after, split, good, overlong⟩
    rcases readLine_of_overlong overlong with ⟨digits, refused⟩
    have bad := lineFault?_eq_some_iff.2 refused
    have first := reports_fault_eq_some_iff.2 ⟨before, line, after, split, good, bad⟩
    exact ⟨_, ⟨_, first, rfl⟩, overlong⟩

end Log

/-! ## Runs -/

/-- A fault that the tool reports as its own: an unreadable log, a line that reports nonsense, or a
    file that cannot be repaired. -/
def RunFault.Reported (fault : RunFault) : Prop :=
  ∃ kind ∈ [FailureClass.unreadableLog, .unparsableViolation, .failedPatch],
    fault.failureClass? = some kind ∧ kind.isOwn = true

theorem reported_iff {fault : RunFault} :
    fault.Reported ↔ fault.failureClass? = some .unreadableLog ∨
      fault.failureClass? = some .unparsableViolation ∨
      fault.failureClass? = some .failedPatch := by
  simp [RunFault.Reported, FailureClass.isOwn]

/-- A run whose scan does not end at an overlong line fails with a fault that is reported. -/
theorem reported_of_run {tree : FileTree} {log : String} {matchers : List Matcher}
    {fault : RunFault} (readable : tree.read (Path.normal log) ≠ .error .embeddedNull)
    (short : ¬Log.EndsOverlong tree (Path.normal log) matchers)
    (failed : (tree.run log matchers).result = .error fault) : fault.Reported := by
  rw [reported_iff]
  cases ended : (Log.scan tree (Path.normal log) matchers).fault with
  | some found =>
    rw [FileTree.run_of_fault ended] at failed
    cases failed
    rcases (Log.failureClass?_of_scan readable ended).1 short with unreadable | unparsable
    · exact .inl unreadable
    · exact .inr (.inl unparsable)
  | none =>
    rw [FileTree.run_of_scanned ended] at failed
    dsimp only at failed
    split at failed
    · cases failed
      exact .inr (.inr rfl)
    · cases failed

/-- A run whose scan ends at an overlong line fails with a fault that is not. -/
theorem exists_unreported_of_endsOverlong {tree : FileTree} {log : String}
    {matchers : List Matcher} (readable : tree.read (Path.normal log) ≠ .error .embeddedNull)
    (overlong : Log.EndsOverlong tree (Path.normal log) matchers) :
    ∃ fault, (tree.run log matchers).result = .error fault ∧ ¬fault.Reported := by
  rcases overlong with ⟨found, ended, long⟩
  have unclassified := (Log.failureClass?_of_scan readable ended).2 ⟨found, ended, long⟩
  refine ⟨.scan (.line found), by rw [FileTree.run_of_fault ended], ?_⟩
  simp [reported_iff, RunFault.failureClass?, unclassified]

/-- Every failure of a run is reported as one of the tool's own if and only if the scan of the log
    does not end at a line that captures a path and a line number of more than 4300 digits. In a log
    that is a text, this is the first line with a fault. Every other line that is refused is
    reported as such, with the line. -/
theorem run_reported_iff {log : String} (noNull : '\x00' ∉ log.toList) (tree : FileTree)
    (matchers : List Matcher) :
    ((∀ fault, (tree.run log matchers).result = .error fault → fault.Reported) ↔
      ¬Log.EndsOverlong tree (Path.normal log) matchers) ∧
    (∀ chars, tree.read (Path.normal log) = .ok (Text.Utf8.encode chars) →
      (Log.EndsOverlong tree (Path.normal log) matchers ↔
        ∃ before line after, Text.lines chars = before ++ line :: after ∧
          (∀ earlier ∈ before, Log.lineFault? matchers earlier = none) ∧
          Log.Overlong matchers line)) ∧
    ∀ line fault, Log.readLine line matchers = .error fault →
      fault.line = line ∧
        (fault.failureClass? = some .unparsableViolation ↔ ¬Log.Overlong matchers line) := by
  have readable : tree.read (Path.normal log) ≠ .error .embeddedNull :=
    FileTree.read_normal_ne_embeddedNull noNull
  refine ⟨⟨?_, ?_⟩, fun chars text => Log.endsOverlong_iff text, ?_⟩
  · intro reported overlong
    rcases exists_unreported_of_endsOverlong readable overlong with ⟨fault, failed, unreported⟩
    exact unreported (reported fault failed)
  · intro short fault failed
    exact reported_of_run readable short failed
  · intro line fault refused
    rcases Log.failureClass?_of_readLine refused with ⟨same, short, long⟩
    refine ⟨same, ?_, short⟩
    intro classified overlong
    rw [long overlong] at classified
    cases classified

theorem run_reported_iff_twoFiles :
    '\x00' ∉ "lost".toList ∧
    ¬Log.EndsOverlong FileTree.twoFiles (Path.normal "lost") Matcher.builtin ∧
    ∀ fault, (FileTree.twoFiles.run "lost" Matcher.builtin).result = .error fault →
      fault.Reported := by
  have noNull : '\x00' ∉ "lost".toList := by decide
  have short : ¬Log.EndsOverlong FileTree.twoFiles (Path.normal "lost") Matcher.builtin := by
    rintro ⟨fault, ended, _⟩
    have unreadable : (Log.scan FileTree.twoFiles (Path.normal "lost") Matcher.builtin).fault =
        some (.unreadable "lost" (.openFault .notFound)) := by decide +kernel
    rw [unreadable] at ended
    cases ended
  exact ⟨noNull, short, (run_reported_iff noNull _ _).1.2 short⟩

/-- A character that ends a line and is not in the path nor the full stop of a diagnostic is not in
    the diagnostic. -/
theorem Log.Diagnostic.notMem_text {d : Log.Diagnostic} {c : Char} (lineEnd : c = '\n' ∨ c = '\r')
    (path : c ∉ d.path) (stop : c ≠ d.stop) : c ∉ d.text := by
  have fixed : c ∉ d.form.front.toList ∧ c ∉ d.form.opening.toList ∧
      c ∉ d.form.closing.toList ∧ c ∉ d.form.back.toList ∧
      c ∉ "Javadoc at-clause '@".toList ∧
      c ∉ "' should be preceded with an empty line".toList := by
    rcases lineEnd with rfl | rfl <;> cases d.form <;> decide
  have numeral : c ∉ d.numeral := by
    apply notMem_numeral
    rcases lineEnd with rfl | rfl <;> rfl
  have clause : c ∉ d.clause := by
    intro member
    have word := d.clause_word c member
    rcases lineEnd with rfl | rfl <;> cases word
  rcases fixed with ⟨front, opening, closing, back, before, after⟩
  simp only [text, head, List.mem_append, List.mem_singleton, not_or]
  exact ⟨⟨⟨⟨⟨⟨⟨⟨⟨front, path⟩, opening⟩, numeral⟩, closing⟩, before⟩, clause⟩, after⟩, stop⟩, back⟩

/-- A diagnostic is one line if its path and its full stop have no carriage return. -/
theorem Log.Diagnostic.isLine_text {d : Log.Diagnostic} (path : '\r' ∉ d.path)
    (stop : d.stop ≠ '\r') : Text.IsLine d.text :=
  ⟨notMem_text (.inl rfl) d.path_line d.stop_line.symm, notMem_text (.inr rfl) path stop.symm⟩

/-- A diagnostic whose line number has one digit more than are converted. -/
def Log.overlongDiagnostic : Log.Diagnostic where
  form := .plugIn
  path := "A.java".toList
  numeral := List.replicate 4301 '1'
  clause := "param".toList
  stop := '.'
  path_line := by decide
  numeral_ne_nil := by
    rw [Ne, List.replicate_eq_nil_iff]
    decide
  numeral_digits c member := by
    rw [List.eq_of_mem_replicate member]
    rfl
  clause_ne_nil := by decide
  clause_word := List.all_eq_true.1 (by decide)
  stop_line := by decide

/-- A log that holds nothing but that diagnostic. -/
def FileTree.overlongLog : FileTree where
  entries := [(["log"], .file (Text.bytesOfLines [String.ofList Log.overlongDiagnostic.text]))]
  workingDirectory := []

/-- The built-in matchers do not make every failure one of the tool's own. -/
theorem run_overlongLog_not_reported :
    ∃ fault, (FileTree.overlongLog.run "log" Matcher.builtin).result = .error fault ∧
      ¬fault.Reported := by
  have isLine := Log.Diagnostic.isLine_text (d := Log.overlongDiagnostic) (by decide) (by decide)
  have readable : FileTree.overlongLog.read (Path.normal "log") =
      .ok (Text.bytesOfLines [String.ofList Log.overlongDiagnostic.text]) := rfl
  have lines : Text.lines (Text.unlines [String.ofList Log.overlongDiagnostic.text]) =
      [String.ofList Log.overlongDiagnostic.text] :=
    Text.lines_unlines (by simpa using isLine)
  have refused : Log.readLine (String.ofList Log.overlongDiagnostic.text) Matcher.builtin =
      .error ⟨String.ofList Log.overlongDiagnostic.text, .tooManyDigits 4301⟩ := by
    have both : Matcher.builtin = [Log.Form.standAlone, .plugIn].map Log.Form.matcher := rfl
    have length : Log.overlongDiagnostic.numeral.length = 4301 := List.length_replicate
    rw [both, Log.readLine_of_diagnostic String.toList_ofList.symm (by decide),
      Log.Diagnostic.report, length, if_pos (by decide)]
  have ended : (Log.scan FileTree.overlongLog (Path.normal "log") Matcher.builtin).fault =
      some (.line ⟨String.ofList Log.overlongDiagnostic.text, .tooManyDigits 4301⟩) := by
    rw [Log.scan_encode readable, lines,
      Log.reports_cons_of_fault (Log.lineFault?_eq_some_iff.2 refused)]
    rfl
  refine ⟨_, by rw [FileTree.run_of_fault ended], ?_⟩
  rw [reported_iff]
  simp [RunFault.failureClass?, Log.ScanFault.failureClass?, Log.LineFault.failureClass?]

end JavadocRepair
