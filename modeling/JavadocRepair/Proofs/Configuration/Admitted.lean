import JavadocRepair.Failure
import JavadocRepair.Proofs.Configuration.Schema
import JavadocRepair.Proofs.Matcher.Definition
import JavadocRepair.Proofs.Matcher.Entry

/-!
# What a schema leaves to be checked

Entries of a file that the schema admits are objects with a name and a pattern, which are texts, and
with groups that are integers or texts. All that can still be wrong with an entry is a blank name, a
pattern that cannot be read, or a group that the pattern does not have. Numbers with a fraction of
zero are kept to 64 bits, and one that is too large for these counts as a group that is not there.
-/

namespace JavadocRepair

variable {host : Host} {fields : List (String × Document)} {entry value : Document}
  {entries : List Document} {pattern : Pattern} {group : GroupRef} {name source field : String}
  {otherwise : Int}

/-! ## Groups -/

/-- A value means a group of whatever pattern, by a number or by a name. -/
inductive Document.Means : Document → GroupRef → Prop where
  | number {value : Document} {n : Int} (whole : value.IsInteger n) : Means value (.number n)
  | name (s : String) : Means (.text s) (.name s)

/-- A number with a fraction of zero that is too large for 64 bits. -/
def Document.TooLarge (value : Document) : Prop :=
  ∃ x n, value = .real x ∧ x.toInt? = some n ∧ (n ≤ -2 ^ 63 ∨ 2 ^ 63 ≤ n)

theorem Document.not_tooLarge_text {s : String} : ¬(text s).TooLarge := by
  rintro ⟨_, _, other, _⟩
  cases other

theorem Document.toInteger_of_isInteger {n : Int} (whole : value.IsInteger n) :
    (value.TooLarge → value.toInteger = .error .outOfRange) ∧
      (¬value.TooLarge → value.toInteger = .ok n) := by
  cases whole with
  | integer =>
    -- integers without a fraction are kept to no size, so none of them is too large
    refine ⟨?_, fun _ => rfl⟩
    rintro ⟨x, n, other, _⟩
    cases other
  | @real x n whole =>
    constructor
    · rintro ⟨_, m, same, whole', large⟩
      cases same
      rw [whole] at whole'
      cases whole'
      simp only [toInteger, integerOfReal, whole]
      rw [if_neg (by omega)]
    · intro small
      have within : -0x8000000000000000 < n ∧ n < 0x8000000000000000 := by
        by_contra outside
        exact small ⟨x, n, rfl, whole, by omega⟩
      simp only [toInteger, integerOfReal, whole]
      rw [if_pos within]

/-- A pattern has the group that a value means if and only if the value refers to it. -/
theorem Pattern.isSome_groupIndex?_iff_of_means
    (accepted : Pattern.read host source = .ok pattern)
    (means : value.Means group) :
    (pattern.groupIndex? group).isSome = true ↔ pattern.RefersTo value group := by
  cases means with
  | number whole =>
    rw [isSome_groupIndex?_number]
    refine ⟨fun range => .number whole range.1 range.2, fun refers => ?_⟩
    cases refers with
    | number _ least most => exact ⟨least, most⟩
  | name s =>
    rw [isSome_groupIndex?_name accepted]
    refine ⟨.name, fun refers => ?_⟩
    cases refers with
    | name known => exact known

namespace Configuration

theorem groupSchema_cases (admits : groupSchema.Admits value) :
    (∃ s, value = .text s) ∨ ∃ n, value.IsInteger n := by
  cases admits with
  | value kind =>
    cases value with
    | integer n => exact .inr ⟨n, .integer n⟩
    | real x =>
      have whole : x.toInt?.isSome = true := by simpa [ValueKind.admits] using kind
      obtain ⟨n, whole⟩ := Option.isSome_iff_exists.1 whole
      exact .inr ⟨n, .real whole⟩
    | text s => exact .inl ⟨s, rfl⟩
    | null | bool | list | object => simp [ValueKind.admits] at kind

/-- A group that is left out stands for a number, which the schema admits as well. -/
theorem groupSchema_admits_getD
    (admits : ∀ value, Document.field? fields field = some value → groupSchema.Admits value)
    (otherwise : Int) :
    groupSchema.Admits ((Document.field? fields field).getD (.integer otherwise)) := by
  cases there : Document.field? fields field with
  | none => exact .value ⟨.integer, by simp, rfl⟩ (by simp)
  | some value => exact admits value there

/-- A group is read as what it means, unless it is too large. -/
theorem groupField_eq_ok_iff_means
    (there : (Document.field? fields field).getD (.integer otherwise) = value)
    (admits : groupSchema.Admits value) :
    groupField otherwise field fields = .ok group ↔ value.Means group ∧ ¬value.TooLarge := by
  rw [groupField_eq_ok_iff there]
  constructor
  · rintro (⟨s, rfl, rfl⟩ | ⟨n, notText, read, rfl⟩)
    · exact ⟨.name s, Document.not_tooLarge_text⟩
    · obtain ⟨s, same⟩ | ⟨m, whole⟩ := groupSchema_cases admits
      · exact (notText s same).elim
      · obtain ⟨large, small⟩ := Document.toInteger_of_isInteger whole
        by_cases tooLarge : value.TooLarge
        · rw [large tooLarge] at read
          cases read
        · rw [small tooLarge] at read
          cases read
          exact ⟨.number whole, tooLarge⟩
  · rintro ⟨means, small⟩
    cases means with
    | @number _ n whole =>
      refine .inr ⟨n, ?_, (Document.toInteger_of_isInteger whole).2 small, rfl⟩
      rintro s rfl
      cases whole
    | name s => exact .inl ⟨s, rfl, rfl⟩

/-- The only group that is refused by itself is a number that is too large, on both counts. -/
theorem groupField_eq_error {faults : List FieldFault}
    (admits : ∀ value, Document.field? fields field = some value → groupSchema.Admits value)
    (refused : groupField otherwise field fields = .error faults) :
    (∃ value, Document.field? fields field = some value ∧ value.TooLarge) ∧
      faults = [⟨[field, "int"], .outOfRange⟩, ⟨[field, "str"], .notText⟩] := by
  unfold groupField at refused
  split at refused
  · cases refused
  · cases refused
  · next value notText there =>
    obtain ⟨s, rfl⟩ | ⟨n, whole⟩ := groupSchema_cases (admits value there)
    · exact (notText s rfl).elim
    · obtain ⟨large, small⟩ := Document.toInteger_of_isInteger whole
      by_cases tooLarge : value.TooLarge
      · rw [large tooLarge] at refused
        cases refused
        exact ⟨⟨value, there, tooLarge⟩, rfl⟩
      · rw [small tooLarge] at refused
        cases refused

/-! ## Entries -/

/-- The groups that an entry has, and their numbers if they are left out. -/
def groupFields : List (String × Int) := [("path_group", 1), ("line_group", 2)]

/-- What is wrong with an entry that the schema admits, and how it is reported. A group that is too
    large for an integer is no text either, so it has a fault on each of the two counts. -/
inductive Defect (host : Host) (fields : List (String × Document)) : FieldFault → Prop where
  | blankName {name : String} (named : Document.field? fields "name" = some (.text name))
      (blank : ∀ c ∈ name.toList, Text.isBlank c = true) :
      Defect host fields ⟨["name"], .blankName⟩
  | badPattern {name source : String} {fault : Pattern.Fault}
      (named : Document.field? fields "name" = some (.text name))
      (written : Document.field? fields "pattern" = some (.text source))
      (refused : Pattern.read host source = .error fault)
      (defect : fault.isDefect = true) :
      Defect host fields ⟨[], .badPattern name source fault⟩
  | noSuchGroup {name source field : String} {otherwise : Int} {pattern : Pattern}
      {value : Document} {group : GroupRef}
      (named : Document.field? fields "name" = some (.text name))
      (written : Document.field? fields "pattern" = some (.text source))
      (read : Pattern.read host source = .ok pattern) (member : (field, otherwise) ∈ groupFields)
      (there : (Document.field? fields field).getD (.integer otherwise) = value)
      (means : value.Means group) (lacking : ¬pattern.RefersTo value group) :
      Defect host fields ⟨[], .noSuchGroup field group name⟩
  | tooLarge {field branch : String} {otherwise : Int} {problem : FieldProblem} {value : Document}
      (member : (field, otherwise) ∈ groupFields)
      (there : Document.field? fields field = some value) (large : value.TooLarge)
      (count : (branch, problem) ∈ [("int", FieldProblem.outOfRange), ("str", .notText)]) :
      Defect host fields ⟨[field, branch], problem⟩

/-- The faults of an entry that the schema admits: defects, or a pattern that is not read to its end
    for a fault that is no defect of it. -/
inductive Refusal (host : Host) (fields : List (String × Document)) : EntryFault → Prop where
  | invalid {faults : List FieldFault} (some : faults ≠ [])
      (each : ∀ fault ∈ faults, Defect host fields fault) :
      Refusal host fields (.invalid faults)
  | unread {source : String} {reason : Pattern.Fault}
      (written : Document.field? fields "pattern" = some (.text source))
      (refused : Pattern.read host source = .error reason)
      (noDefect : reason.isDefect = false) : Refusal host fields (.unread reason)

end Configuration

/-- A fault in the form of a field: the field is missing, a name or a pattern is no text, or a group
    is neither an integer nor a text, or has a fraction. -/
def FieldFault.OfForm (fault : FieldFault) : Prop :=
  fault.problem ∈ [FieldProblem.missing, .notInteger, .noNumeral, .fractional] ∨
    fault.problem = .notText ∧ fault.location ∈ [["name"], ["pattern"]]

namespace Configuration

/-- What the schema leaves to be found are not faults of form. -/
theorem Defect.not_ofForm {fault : FieldFault} (defect : Defect host fields fault) :
    ¬fault.OfForm := by
  cases defect with
  | blankName | badPattern | noSuchGroup => simp [FieldFault.OfForm]
  | tooLarge _ _ _ count =>
    simp only [List.mem_cons, Prod.mk.injEq, List.not_mem_nil, or_false] at count
    obtain ⟨rfl, rfl⟩ | ⟨rfl, rfl⟩ := count
    · simp [FieldFault.OfForm]
    · simp [FieldFault.OfForm]

theorem mem_groupFields_iff :
    (field, otherwise) ∈ groupFields ↔
      field = "path_group" ∧ otherwise = 1 ∨ field = "line_group" ∧ otherwise = 2 := by
  simp [groupFields]

theorem groupField_admits (admits : entrySchema.Admits (.object fields))
    (member : (field, otherwise) ∈ groupFields) :
    ∀ value, Document.field? fields field = some value → groupSchema.Admits value := by
  obtain ⟨_, _, _, path, line⟩ := entrySchema_admits_iff.1 admits
  obtain ⟨rfl, _⟩ | ⟨rfl, _⟩ := mem_groupFields_iff.1 member
  · exact path
  · exact line

/-- All that can be wrong with a name that the schema admits is that it is blank. -/
theorem defect_of_nameField (named : Document.field? fields "name" = some (.text name))
    {faults : List FieldFault}
    (refused : requiredField Matcher.nameOf "name" fields = .error faults) :
    faults ≠ [] ∧ ∀ fault ∈ faults, Defect host fields fault := by
  by_cases blank : name.toList.all Text.isBlank = true
  · simp only [requiredField, named, Matcher.nameOf, Document.toText, blank, if_true] at refused
    cases refused
    refine ⟨List.cons_ne_nil _ _, List.forall_mem_singleton.2 ?_⟩
    exact .blankName named (List.all_eq_true.1 blank)
  · simp only [requiredField, named, Matcher.nameOf, Document.toText, blank] at refused
    cases refused

theorem defect_of_groupField (admits : entrySchema.Admits (.object fields))
    (member : (field, otherwise) ∈ groupFields) {faults : List FieldFault}
    (refused : groupField otherwise field fields = .error faults) :
    faults ≠ [] ∧ ∀ fault ∈ faults, Defect host fields fault := by
  obtain ⟨⟨value, there, large⟩, rfl⟩ :=
    groupField_eq_error (groupField_admits admits member) refused
  refine ⟨List.cons_ne_nil _ _, ?_⟩
  simp only [List.forall_mem_cons, List.not_mem_nil, false_imp_iff, implies_true, and_true]
  exact ⟨.tooLarge member there large (by simp), .tooLarge member there large (by simp)⟩

/-- A group that is looked for in vain is not referred to. -/
theorem defect_of_groupIndex? (admits : entrySchema.Admits (.object fields))
    (named : Document.field? fields "name" = some (.text name))
    (written : Document.field? fields "pattern" = some (.text source))
    (read : Pattern.read host source = .ok pattern) (member : (field, otherwise) ∈ groupFields)
    (found : groupField otherwise field fields = .ok group)
    (unknown : ¬(pattern.groupIndex? group).isSome = true) :
    Defect host fields ⟨[], .noSuchGroup field group name⟩ := by
  have admitted := groupSchema_admits_getD (groupField_admits admits member) otherwise
  obtain ⟨means, _⟩ := (groupField_eq_ok_iff_means rfl admitted).1 found
  rw [Pattern.isSome_groupIndex?_iff_of_means read means] at unknown
  exact .noSuchGroup named written read member rfl means unknown

theorem Refusal.single {fault : FieldFault} (defect : Defect host fields fault) :
    Refusal host fields (.invalid [fault]) :=
  .invalid (List.cons_ne_nil _ _) (List.forall_mem_singleton.2 defect)

/-- Whatever is wrong with a pattern and its groups is the pattern, or the group that is looked for
    first and not found. -/
theorem refusal_of_define_eq_error (admits : entrySchema.Admits (.object fields))
    (named : Document.field? fields "name" = some (.text name))
    (written : Document.field? fields "pattern" = some (.text source))
    {pathGroup lineGroup : GroupRef} (pathRead : groupField 1 "path_group" fields = .ok pathGroup)
    (lineRead : groupField 2 "line_group" fields = .ok lineGroup) {fault : EntryFault}
    (refused : Matcher.define host name source pathGroup lineGroup = .error fault) :
    Refusal host fields fault := by
  unfold Matcher.define at refused
  cases read : Pattern.read host source with
  | error found =>
    rw [read] at refused
    dsimp only at refused
    split_ifs at refused with defect
    · cases refused
      exact .single (.badPattern named written read defect)
    · cases refused
      exact .unread written read (Bool.eq_false_iff.2 defect)
  | ok pattern =>
    rw [read] at refused
    dsimp only at refused
    split_ifs at refused with hasPath hasLine
    · have member := mem_groupFields_iff.2 (.inr ⟨rfl, rfl⟩)
      cases refused
      exact .single (defect_of_groupIndex? admits named written read member lineRead hasLine)
    · have member := mem_groupFields_iff.2 (.inl ⟨rfl, rfl⟩)
      cases refused
      exact .single (defect_of_groupIndex? admits named written read member pathRead hasPath)

/-- A check that has no faults succeeds, if it never fails without any. -/
theorem faultsOf_of_defects {α : Type} {outcome : Except (List FieldFault) α}
    (each : ∀ faults, outcome = .error faults →
      faults ≠ [] ∧ ∀ fault ∈ faults, Defect host fields fault) :
    (faultsOf outcome = [] → ∃ a, outcome = .ok a) ∧
      ∀ fault ∈ faultsOf outcome, Defect host fields fault := by
  cases outcome with
  | ok a => exact ⟨fun _ => ⟨a, rfl⟩, by simp [faultsOf]⟩
  | error faults =>
    obtain ⟨some, defects⟩ := each faults rfl
    exact ⟨fun none => (some none).elim, defects⟩

/-- Whatever is wrong with an entry that the schema admits is a defect of it, or a pattern that is
    left unread. -/
theorem refusal_of_ofFields_eq_error (admits : entrySchema.Admits (.object fields))
    {fault : EntryFault} (refused : Matcher.ofFields host fields = .error fault) :
    Refusal host fields fault := by
  obtain ⟨_, ⟨name, named, _⟩, ⟨source, written, _⟩, _⟩ := entrySchema_admits_iff.1 admits
  have sourceRead : requiredField Document.toText "pattern" fields = .ok source :=
    requiredField_eq_ok_iff.2 ⟨_, written, rfl⟩
  unfold Matcher.ofFields at refused
  dsimp only at refused
  split at refused
  · next read source pathGroup lineGroup nameRead sourceRead pathRead lineRead =>
    obtain ⟨value, named', checked⟩ := requiredField_eq_ok_iff.1 nameRead
    obtain ⟨rfl, _⟩ := Matcher.nameOf_eq_ok_iff.1 checked
    obtain ⟨value, written', checked⟩ := requiredField_eq_ok_iff.1 sourceRead
    obtain rfl := Document.toText_eq_ok_iff.1 checked
    exact refusal_of_define_eq_error admits named' written' pathRead lineRead refused
  · next bad =>
    obtain ⟨noName, names⟩ := faultsOf_of_defects fun faults => defect_of_nameField named
    obtain ⟨noPath, paths⟩ := faultsOf_of_defects fun faults =>
      defect_of_groupField admits (mem_groupFields_iff.2 (.inl ⟨rfl, rfl⟩))
    obtain ⟨noLine, lines⟩ := faultsOf_of_defects fun faults =>
      defect_of_groupField admits (mem_groupFields_iff.2 (.inr ⟨rfl, rfl⟩))
    have noSource : faultsOf (requiredField Document.toText "pattern" fields) = [] := by
      rw [sourceRead]
      rfl
    cases refused
    rw [noSource, List.append_nil]
    refine .invalid ?_ (List.forall_mem_append.2 ⟨List.forall_mem_append.2 ⟨names, paths⟩, lines⟩)
    -- without a fault of its own each field is in order, and then this is not the case of faults
    intro none
    simp only [List.append_eq_nil_iff] at none
    obtain ⟨_, nameRead⟩ := noName none.1.1
    obtain ⟨_, pathRead⟩ := noPath none.1.2
    obtain ⟨_, lineRead⟩ := noLine none.2
    exact bad _ _ _ _ nameRead sourceRead pathRead lineRead

/-! ## Entries with a defect -/

variable {matcher : Matcher}

theorem read_of_ofFields_eq_ok (made : Matcher.ofFields host fields = .ok matcher)
    (written : Document.field? fields "pattern" = some (.text source)) :
    Pattern.read host source = .ok matcher.pattern := by
  obtain ⟨_, ⟨source', sourceRead, read⟩, _⟩ := Matcher.ofFields_eq_ok_iff.1 made
  obtain ⟨value, there, checked⟩ := requiredField_eq_ok_iff.1 sourceRead
  obtain rfl := Document.toText_eq_ok_iff.1 checked
  cases written.symm.trans there
  exact read

/-- A group of an entry that gives a matcher is not too large, and what it means is a group of the
    pattern. -/
theorem refersTo_of_ofFields_eq_ok (admits : entrySchema.Admits (.object fields))
    (made : Matcher.ofFields host fields = .ok matcher)
    (member : (field, otherwise) ∈ groupFields)
    (there : (Document.field? fields field).getD (.integer otherwise) = value) :
    ¬value.TooLarge ∧ ∀ group, value.Means group → matcher.pattern.RefersTo value group := by
  obtain ⟨_, ⟨source, _, read⟩, path, line⟩ := Matcher.ofFields_eq_ok_iff.1 made
  obtain ⟨known, found, has⟩ : ∃ group, groupField otherwise field fields = .ok group ∧
      (matcher.pattern.groupIndex? group).isSome = true := by
    obtain ⟨rfl, rfl⟩ | ⟨rfl, rfl⟩ := mem_groupFields_iff.1 member
    · exact ⟨_, path, matcher.hasPathGroup⟩
    · exact ⟨_, line, matcher.hasLineGroup⟩
  have admitted := groupSchema_admits_getD (groupField_admits admits member) otherwise
  rw [there] at admitted
  obtain ⟨_, small⟩ := (groupField_eq_ok_iff_means there admitted).1 found
  refine ⟨small, fun group means => ?_⟩
  cases found.symm.trans ((groupField_eq_ok_iff_means there admitted).2 ⟨means, small⟩)
  exact (Pattern.isSome_groupIndex?_iff_of_means read means).1 has

/-- An entry with a defect gives no matcher. -/
theorem Defect.ofFields_ne_ok (admits : entrySchema.Admits (.object fields)) {fault : FieldFault}
    (defect : Defect host fields fault) : Matcher.ofFields host fields ≠ .ok matcher := by
  intro made
  cases defect with
  | blankName named blank =>
    obtain ⟨nameRead, _⟩ := Matcher.ofFields_eq_ok_iff.1 made
    obtain ⟨value, there, checked⟩ := requiredField_eq_ok_iff.1 nameRead
    obtain ⟨rfl, c, member, solid⟩ := Matcher.nameOf_eq_ok_iff.1 checked
    cases named.symm.trans there
    cases solid.symm.trans (blank c member)
  | badPattern _ written refused _ => cases refused.symm.trans (read_of_ofFields_eq_ok made written)
  | noSuchGroup _ written read member there means lacking =>
    cases read.symm.trans (read_of_ofFields_eq_ok made written)
    exact lacking ((refersTo_of_ofFields_eq_ok admits made member there).2 _ means)
  | tooLarge member there large _ =>
    obtain ⟨small, _⟩ := refersTo_of_ofFields_eq_ok admits made member rfl
    rw [there] at small
    exact small large

/-- An entry that the schema admits gives no matcher if and only if there is something to refuse. -/
theorem ofFields_eq_error_iff_refusal (admits : entrySchema.Admits (.object fields)) :
    (∃ fault, Matcher.ofFields host fields = .error fault) ↔
      ∃ fault, Refusal host fields fault := by
  constructor
  · rintro ⟨fault, refused⟩
    exact ⟨fault, refusal_of_ofFields_eq_error admits refused⟩
  · rintro ⟨fault, refusal⟩
    cases made : Matcher.ofFields host fields with
    | error found => exact ⟨found, rfl⟩
    | ok matcher =>
      cases refusal with
      | invalid some each =>
        obtain ⟨fault, member⟩ := List.exists_mem_of_ne_nil _ some
        exact ((each fault member).ofFields_ne_ok admits made).elim
      | unread written refused _ => cases refused.symm.trans (read_of_ofFields_eq_ok made written)

/-- The entries of a document without violations of the schema are a list of objects. Such an entry
    gives no matcher if and only if it has a blank name, a pattern that cannot be read, or a group
    that the pattern does not have or that is too large to be one, and that is what is reported, but
    no fault of form. The index in the message is that of the first entry without a matcher. -/
theorem entries_of_report_eq_nil {document : Document} (clean : fileSchema.report document = []) :
    ∃ fields entries, document = .object fields ∧
      Document.field? fields "matchers" = some (.list entries) ∧ entriesOf fields = entries ∧
      (∀ entry ∈ entries, ∃ values, entry = .object values ∧
        ((∃ fault, Matcher.ofEntry host entry = .error fault) ↔
          ∃ fault, Refusal host values fault) ∧
        (∀ fault, Matcher.ofEntry host entry = .error fault → Refusal host values fault) ∧
        ∀ faults, Matcher.ofEntry host entry = .error (.invalid faults) →
          ∀ fault ∈ faults, ¬fault.OfForm) ∧
      ∀ fault, Matcher.ofEntries host entries = .error fault →
        (∃ entry, entries[fault.index]? = some entry ∧
          Matcher.ofEntry host entry = .error fault.fault) ∧
        IsLeast {index | ∃ entry fault, entries[index]? = some entry ∧
          Matcher.ofEntry host entry = .error fault} fault.index ∧
        ((Fault.entries fault).failureClass? host = some .badConfiguration →
          (Fault.entries fault).message = s!"matcher #{fault.index} is invalid") := by
  have admits := Schema.report_eq_nil_iff.1 clean
  obtain ⟨fields, rfl⟩ : ∃ fields, document = .object fields := by
    cases document with
    | object fields => exact ⟨fields, rfl⟩
    | _ => cases admits
  obtain ⟨_, _, entries, listed, each⟩ := fileSchema_admits_iff.1 admits
  refine ⟨fields, entries, rfl, listed, entriesOf_of_field? listed, ?_, ?_⟩
  · intro entry member
    rw [← entriesOf_of_field? listed] at member
    obtain ⟨values, rfl, admitted⟩ := exists_object_of_mem_entriesOf admits member
    refine ⟨values, rfl, ofFields_eq_error_iff_refusal admitted, ?_, ?_⟩
    · exact fun fault => refusal_of_ofFields_eq_error admitted
    · intro faults refused fault among
      cases refusal_of_ofFields_eq_error admitted refused with
      | invalid _ defects => exact (defects fault among).not_ofForm
  · intro fault refused
    obtain ⟨own, least⟩ := Matcher.isLeast_of_ofEntries_eq_error refused
    refine ⟨own, least, ?_⟩
    intro classified
    obtain ⟨index, fault⟩ := fault
    cases fault with
    | invalid faults => rfl
    | unread | notObject => cases classified

/-- Three entries: one with a character by its name and a group that is an integer though written as
    a real number, one with a blank name and a group that is too large, and one with a group that its
    pattern lacks. -/
def threeEntries : List (String × Document) :=
  [("matchers", .list
    [.object [("name", .text "marks"), ("pattern", .text "(a)\\N\x7bCOLON\x7d(?P<no>b)"),
        ("path_group", .real ⟨false, 1, 0⟩), ("line_group", .text "no")],
      .object [("name", .text " "), ("pattern", .text "("), ("line_group", .real ⟨false, 1, 64⟩)],
      .object [("name", .text "one"), ("pattern", .text "(a)")]])]

theorem entries_of_report_eq_nil_threeEntries :
    fileSchema.report (.object threeEntries) = [] ∧
    Matcher.ofEntries .ascii (entriesOf threeEntries) =
      .error ⟨1, .invalid [⟨["name"], .blankName⟩, ⟨["line_group", "int"], .outOfRange⟩,
        ⟨["line_group", "str"], .notText⟩]⟩ ∧
    IsLeast {index | ∃ entry fault, (entriesOf threeEntries)[index]? = some entry ∧
      Matcher.ofEntry .ascii entry = .error fault} 1 := by
  have clean : fileSchema.report (.object threeEntries) = [] :=
    List.isEmpty_iff.1 (by decide +kernel)
  have refused : Matcher.ofEntries .ascii (entriesOf threeEntries) = .error ⟨1, .invalid
      [⟨["name"], .blankName⟩, ⟨["line_group", "int"], .outOfRange⟩,
        ⟨["line_group", "str"], .notText⟩]⟩ := by
    decide +kernel
  obtain ⟨fields, entries, same, _, rfl, _, faults⟩ := entries_of_report_eq_nil clean
  cases same
  exact ⟨clean, refused, (faults _ refused).2.1⟩

end Configuration

end JavadocRepair
