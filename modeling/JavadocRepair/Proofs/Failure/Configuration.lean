import JavadocRepair.Failure
import JavadocRepair.Proofs.Configuration.Breach
import JavadocRepair.Proofs.Configuration.Schema
import JavadocRepair.Proofs.Files.Path
import JavadocRepair.Proofs.Matcher.Entry
import JavadocRepair.Proofs.Pattern.Readers

/-!
# Failures of configurations

Whatever a configuration file holds, loading it gives matchers or a failure that is reported as a
bad configuration. There are two exceptions, which end the loading without a class: a pattern that
is left unread, for a number that is too large or for a stack that is too small, and a value of a
wrong kind that is nested too deeply to be shown. Since the schema has admitted the file before its
patterns are read, all entries are objects.
-/

namespace JavadocRepair.Configuration

variable {host : Host} {tree : FileTree} {path source : String} {bytes : List UInt8}
  {includeBuiltin : Option Bool} {fault : Fault} {reason : Pattern.Fault} {document : Document}

/-- The file at a path is admitted by the schema, and the first of its entries that gives no matcher
    has a pattern that is left unread. -/
def EndsAtPattern (host : Host) (tree : FileTree) (path source : String)
    (reason : Pattern.Fault) : Prop :=
  ∃ bytes fields before entry after,
    tree.read path = .ok bytes ∧
    Document.ofBytes? .standard bytes = some (.object fields) ∧
    fileSchema.Admits (.object fields) ∧
    entriesOf fields = before ++ entry :: after ∧
    (∀ earlier ∈ before, ∃ matcher, Matcher.ofEntry host earlier = .ok matcher) ∧
    Matcher.LeftUnread host entry source reason

/-- A value in a document is of none of the kinds that the schema asks for at its place, and the
    stack is too small to show it. -/
def Hides (host : Host) (document value : Document) : Prop :=
  ∃ place part, fileSchema.Governs document place part value ∧
    (∀ kind ∈ part.kinds, kind.admits value = false) ∧ host.canShow value = false

/-- The file at a path is a document with a value of a wrong kind that cannot be shown. -/
def EndsAtValue (host : Host) (tree : FileTree) (path : String) (value : Document) : Prop :=
  ∃ bytes document, tree.read path = .ok bytes ∧
    Document.ofBytes? .standard bytes = some document ∧ Hides host document value

/-! ## Reports -/

theorem Breach.isShown_eq_false_iff {breach : Breach} :
    breach.isShown host = false ↔
      ∃ value kinds, breach = .wrongKind value kinds ∧ host.canShow value = false := by
  cases breach <;> simp [isShown]

/-- Of all breaches only that of a kind can fail to be shown, when its value does. -/
theorem exists_hides_iff :
    (∃ value, Hides host document value) ↔
      ∃ violation ∈ fileSchema.report document, violation.breach.isShown host = false := by
  simp only [Schema.report, List.mem_mergeSort]
  constructor
  · rintro ⟨value, place, part, governs, none, hidden⟩
    exact ⟨⟨place, .wrongKind value part.kinds⟩,
      Schema.mem_violations_iff.2 ⟨place, part, value, rfl, governs, .wrongKind none⟩, hidden⟩
  · rintro ⟨violation, member, hidden⟩
    rcases Schema.mem_violations_iff.1 member with ⟨place, part, value, _, governs, breaches⟩
    rcases Breach.isShown_eq_false_iff.1 hidden with ⟨shown, kinds, same, hidden⟩
    rw [same] at breaches
    cases breaches with
    | wrongKind none => exact ⟨value, place, part, governs, none, hidden⟩

/-- A report has a class if every value that is to be shown in it is. -/
theorem failureClass?_mismatch :
    ((∀ value, ¬Hides host document value) ∧
        (Fault.mismatch path (fileSchema.report document)).failureClass? host =
          some .badConfiguration) ∨
      (∃ value, Hides host document value) ∧
        (Fault.mismatch path (fileSchema.report document)).failureClass? host = none := by
  by_cases hides : ∃ value, Hides host document value
  · refine .inr ⟨hides, ?_⟩
    rcases exists_hides_iff.1 hides with ⟨violation, member, hidden⟩
    simp only [Fault.failureClass?, ite_eq_right_iff, List.all_eq_true]
    intro shown
    rw [shown violation member] at hidden
    cases hidden
  · refine .inl ⟨not_exists.1 hides, ?_⟩
    simp only [Fault.failureClass?, ite_eq_left_iff, List.all_eq_true]
    intro hidden
    refine absurd ?_ hidden
    intro violation member
    by_contra unshown
    exact hides (exists_hides_iff.2 ⟨violation, member, Bool.eq_false_iff.2 unshown⟩)

/-! ## Loading -/

/-- What can be wrong with bytes has a class, unless it is in the report on a document or in an
    entry of a document that the schema admits. -/
theorem exists_of_ofBytes_eq_error
    (failed : ofBytes host path bytes includeBuiltin = .error fault) :
    fault.failureClass? host = some .badConfiguration ∨
      (∃ document, fault = .mismatch path (fileSchema.report document) ∧
        Document.ofBytes? .standard bytes = some document) ∨
      ∃ fields entriesFault, fault = .entries entriesFault ∧
        Document.ofBytes? .standard bytes = some (.object fields) ∧
        fileSchema.Admits (.object fields) ∧
        Matcher.ofEntries host (entriesOf fields) = .error entriesFault := by
  unfold ofBytes at failed
  split at failed
  · cases failed
    exact .inl rfl
  · next document parsed =>
    split at failed
    · next fields clean =>
      unfold matchersOf at failed
      split at failed
      · next entriesFault built =>
        cases failed
        exact .inr (.inr ⟨fields, entriesFault, rfl, parsed, Schema.report_eq_nil_iff.1 clean,
          built⟩)
      · dsimp only at failed
        split at failed
        · cases failed
        · cases failed
          exact .inl rfl
    · cases failed
      exact .inr (.inl ⟨_, rfl, parsed⟩)

theorem ofBytes_of_ofEntries {fields : List (String × Document)} {entriesFault : EntriesFault}
    (parsed : Document.ofBytes? .standard bytes = some (.object fields))
    (admits : fileSchema.Admits (.object fields))
    (failed : Matcher.ofEntries host (entriesOf fields) = .error entriesFault) :
    ofBytes host path bytes includeBuiltin = .error (.entries entriesFault) := by
  have clean := Schema.report_eq_nil_iff.2 admits
  simp only [ofBytes, parsed, clean, matchersOf, failed]

theorem ofBytes_of_report (parsed : Document.ofBytes? .standard bytes = some document)
    (broken : fileSchema.report document ≠ []) :
    ofBytes host path bytes includeBuiltin =
      .error (.mismatch path (fileSchema.report document)) := by
  simp only [ofBytes, parsed]
  split
  · next clean => exact absurd clean broken
  · rfl

/-- The entries of a document that the schema admits are objects, so the first that gives no matcher
    is invalid or left unread. -/
theorem exists_of_ofEntries_eq_error {fields : List (String × Document)} {index : Nat}
    {entryFault : EntryFault} (admits : fileSchema.Admits (.object fields))
    (failed : Matcher.ofEntries host (entriesOf fields) = .error ⟨index, entryFault⟩) :
    (∃ faults, entryFault = .invalid faults) ∨
      ∃ before entry after source reason, entryFault = .unread reason ∧
        entriesOf fields = before ++ entry :: after ∧
        (∀ earlier ∈ before, ∃ matcher, Matcher.ofEntry host earlier = .ok matcher) ∧
        Matcher.LeftUnread host entry source reason := by
  rcases Matcher.ofEntriesFrom_eq_error_iff.1 failed with
    ⟨before, entry, after, split, good, refused, _⟩
  have member : entry ∈ entriesOf fields := by simp [split]
  rcases exists_object_of_mem_entriesOf admits member with ⟨values, rfl, _⟩
  rcases Matcher.exists_of_ofEntry_eq_error refused with
    invalid | ⟨reason, source, same, unread⟩
  · exact .inl invalid
  · exact .inr ⟨before, _, after, source, reason, same, split, good, unread⟩

/-- Loading fails for lack of a class only at a pattern that is left unread or at a value that
    cannot be shown: no path is refused for a null character, and no entry for being no object. -/
theorem exists_endsAt_of_load (noNull : '\x00' ∉ path.toList)
    (failed : load host tree path includeBuiltin = .error fault) :
    fault.failureClass? host = some .badConfiguration ∨
      (∃ violations value, fault = .mismatch (Path.normal path) violations ∧
        EndsAtValue host tree (Path.normal path) value) ∨
      ∃ index reason source, fault = .entries ⟨index, .unread reason⟩ ∧
        EndsAtPattern host tree (Path.normal path) source reason := by
  unfold load at failed
  dsimp only at failed
  split at failed
  · next null => exact absurd null (FileTree.read_normal_ne_embeddedNull noNull)
  · cases failed
    exact .inl rfl
  · next bytes read =>
    rcases exists_of_ofBytes_eq_error failed with classified | ⟨document, rfl, parsed⟩ |
      ⟨fields, ⟨index, entryFault⟩, rfl, parsed, admits, refused⟩
    · exact .inl classified
    · rcases failureClass?_mismatch with ⟨_, classified⟩ | ⟨⟨value, hides⟩, _⟩
      · exact .inl classified
      · exact .inr (.inl ⟨_, value, rfl, bytes, document, read, parsed, hides⟩)
    · rcases exists_of_ofEntries_eq_error admits refused with
        ⟨faults, rfl⟩ | ⟨before, entry, after, source, reason, rfl, split, good, unread⟩
      · exact .inl rfl
      · exact .inr (.inr ⟨index, reason, source, rfl, bytes, fields, before, entry, after, read,
          parsed, admits, split, good, unread⟩)

/-- A pattern that is left unread ends the loading. -/
theorem load_of_endsAtPattern
    (ends : EndsAtPattern host tree (Path.normal path) source reason) :
    ∃ index, load host tree path includeBuiltin =
      .error (.entries ⟨index, .unread reason⟩) := by
  rcases ends with ⟨bytes, fields, before, entry, after, read, parsed, admits, split, good,
    unread⟩
  have refused := Matcher.ofEntry_of_leftUnread unread
  have failed : Matcher.ofEntries host (entriesOf fields) =
      .error ⟨0 + before.length, .unread reason⟩ :=
    Matcher.ofEntriesFrom_eq_error_iff.2 ⟨before, entry, after, split, good, refused, rfl⟩
  refine ⟨0 + before.length, ?_⟩
  simp only [load, read]
  exact ofBytes_of_ofEntries parsed admits failed

/-- A value that cannot be shown ends the loading. -/
theorem load_of_endsAtValue {value : Document}
    (ends : EndsAtValue host tree (Path.normal path) value) :
    ∃ fault, load host tree path includeBuiltin = .error fault ∧
      fault.failureClass? host = none := by
  rcases ends with ⟨bytes, document, read, parsed, hides⟩
  have broken : fileSchema.report document ≠ [] := by
    rcases exists_hides_iff.1 ⟨value, hides⟩ with ⟨violation, member, _⟩
    exact List.ne_nil_of_mem member
  refine ⟨.mismatch (Path.normal path) (fileSchema.report document), ?_, ?_⟩
  · simp only [load, read]
    exact ofBytes_of_report parsed broken
  · rcases failureClass?_mismatch with ⟨never, _⟩ | ⟨_, unclassified⟩
    · exact absurd hides (never value)
    · exact unclassified

/-- A pattern is left unread for a stack that is too small, or for a number that is written in it:
    a repetition count between braces or a code point with eight digits. -/
theorem cases_of_endsAtPattern (ends : EndsAtPattern host tree path source reason) :
    reason = .stackExhausted ∧ host.canRead source = false ∨
      ∃ number, reason = .overflow number ∧ number.WrittenIn source.toList := by
  rcases ends with ⟨_, _, _, _, _, _, _, _, _, _, unread⟩
  rcases Pattern.cases_of_read_eq_error unread.pattern with defect | rest
  · rw [unread.noDefect] at defect
    cases defect
  · exact rest

/-- Every failure to load a configuration is reported as a bad configuration, unless the loading
    ends at an entry with a pattern that is left unread, or at a value of a wrong kind that cannot
    be shown. A failure without a class is one of these two. The pattern is left unread because the
    stack is too small for it, or because of a number that is too large and written in it. -/
theorem load_badConfiguration_iff (noNull : '\x00' ∉ path.toList) (host : Host)
    (tree : FileTree) (includeBuiltin : Option Bool) :
    ((∀ fault, load host tree path includeBuiltin = .error fault →
        fault.failureClass? host = some .badConfiguration) ↔
      (∀ source reason, ¬EndsAtPattern host tree (Path.normal path) source reason) ∧
        ∀ value, ¬EndsAtValue host tree (Path.normal path) value) ∧
    (∀ fault, load host tree path includeBuiltin = .error fault →
      fault.failureClass? host = none →
      (∃ index reason, fault = .entries ⟨index, .unread reason⟩) ∨
        ∃ violations, fault = .mismatch (Path.normal path) violations) ∧
    ∀ source reason, EndsAtPattern host tree (Path.normal path) source reason →
      reason = .stackExhausted ∧ host.canRead source = false ∨
        ∃ number, reason = .overflow number ∧ number.WrittenIn source.toList := by
  refine ⟨⟨?_, ?_⟩, ?_, fun source reason => cases_of_endsAtPattern⟩
  · intro classified
    constructor
    · intro source reason ends
      rcases load_of_endsAtPattern ends with ⟨index, failed⟩
      have impossible := classified _ failed
      cases impossible
    · intro value ends
      rcases load_of_endsAtValue ends with ⟨fault, failed, unclassified⟩
      rw [classified fault failed] at unclassified
      cases unclassified
  · rintro ⟨noPattern, noValue⟩ fault failed
    rcases exists_endsAt_of_load noNull failed with
      classified | ⟨_, value, _, ends⟩ | ⟨_, reason, source, _, ends⟩
    · exact classified
    · exact absurd ends (noValue value)
    · exact absurd ends (noPattern source reason)
  · intro fault failed unclassified
    rcases exists_endsAt_of_load noNull failed with
      classified | ⟨violations, _, same, _⟩ | ⟨index, reason, _, same, _⟩
    · rw [unclassified] at classified
      cases classified
    · exact .inr ⟨violations, same⟩
    · exact .inl ⟨index, reason, same⟩

/-- A file with one matcher, whose pattern has the least count that is too large behind a character
    that is given by its name. -/
def countedFile : FileTree where
  entries := [(["config"], .file (Text.bytesOfLines
    ["\x7b\"matchers\": [\x7b\"name\": \"counted\", "
      ++ "\"pattern\": \"\\\\N\x7bCOLON\x7d(a\x7b4294967295\x7d)(b)\"\x7d]\x7d"]))]
  workingDirectory := []

theorem exists_of_load_countedFile :
    ∃ fault, load .ascii countedFile "config" none = .error fault ∧
      fault.failureClass? .ascii = none := by
  have failed : (load .ascii countedFile "config" none).mapError (·.failureClass? .ascii) =
      .error none := by
    decide +kernel
  cases ended : load .ascii countedFile "config" none with
  | ok matchers =>
    rw [ended] at failed
    cases failed
  | error fault =>
    rw [ended] at failed
    exact ⟨fault, rfl, Except.error.inj failed⟩

theorem load_badConfiguration_iff_countedFile :
    '\x00' ∉ "config".toList ∧
    ∃ source number,
      EndsAtPattern .ascii countedFile (Path.normal "config") source (.overflow number) ∧
        number.WrittenIn source.toList := by
  have noNull : '\x00' ∉ "config".toList := by decide
  rcases load_badConfiguration_iff noNull .ascii countedFile none with ⟨reported, _, written⟩
  refine ⟨noNull, ?_⟩
  by_contra never
  have classified := reported.2 ⟨?_, ?_⟩
  · rcases exists_of_load_countedFile with ⟨fault, failed, unclassified⟩
    rw [classified fault failed] at unclassified
    cases unclassified
  · intro source reason ends
    rcases written source reason ends with ⟨_, small⟩ | ⟨number, rfl, there⟩
    · cases small
    · exact never ⟨source, number, ends, there⟩
  · rintro value ⟨_, _, _, _, _, _, _, _, hidden⟩
    cases hidden

/-- Not every failure to load a configuration is reported as a bad configuration. -/
theorem exists_load_unclassified :
    ¬∀ host tree path includeBuiltin fault, '\x00' ∉ path.toList →
      load host tree path includeBuiltin = .error fault →
      fault.failureClass? host = some .badConfiguration := by
  intro classified
  rcases exists_of_load_countedFile with ⟨fault, failed, unclassified⟩
  rw [classified .ascii countedFile "config" none fault (by decide) failed] at unclassified
  cases unclassified

end JavadocRepair.Configuration
