import Mathlib.Data.List.Enum
import JavadocRepair.Configuration.Basic

/-!
# The documents that schemas admit

A schema admits a document if the document is built the way the schema says, which is stated here
apart from the list of violations. The report is empty exactly for the documents that are admitted.
-/

namespace JavadocRepair.Configuration

/-- The documents that a schema admits. -/
inductive Schema.Admits : Schema → Document → Prop where
  | value {kinds : List ValueKind} {nonEmpty : Bool} {value : Document}
      (kind : ∃ kind ∈ kinds, kind.admits value = true)
      (filled : nonEmpty = true → value ≠ .text "") : Admits (.value kinds nonEmpty) value
  | list {element : Schema} {elements : List Document}
      (each : ∀ value ∈ elements, Admits element value) : Admits (.list element) (.list elements)
  | record {required : List String} {fields : List (String × Schema)}
      {values : List (String × Document)}
      (known : ∀ name ∈ values.map (·.1), name ∈ fields.map (·.1))
      (complete : ∀ name ∈ required, name ∈ values.map (·.1))
      (each : ∀ name schema value, (name, schema) ∈ fields →
        Document.field? values name = some value → Admits schema value) :
      Admits (.record required fields) (.object values)

/-! ## Single breaches -/

theorem kindBreach_eq_nil_iff {kinds : List ValueKind} {value : Document} :
    kindBreach kinds value = [] ↔ ∃ kind ∈ kinds, kind.admits value = true := by
  simp [kindBreach]

theorem emptyBreach_eq_nil_iff {nonEmpty : Bool} {value : Document} :
    emptyBreach nonEmpty value = [] ↔ (nonEmpty = true → value ≠ .text "") := by
  cases value <;> simp [emptyBreach]

theorem unexpectedBreach_eq_nil_iff {allowed : List String}
    {fields : List (String × Document)} :
    unexpectedBreach allowed fields = [] ↔ ∀ name ∈ fields.map (·.1), name ∈ allowed := by
  simp [unexpectedBreach]

theorem missingBreaches_eq_nil_iff {required : List String}
    {fields : List (String × Document)} :
    missingBreaches required fields = [] ↔ ∀ name ∈ required, name ∈ fields.map (·.1) := by
  simp [missingBreaches]

/-! ## One level of a document -/

section Level

variable {place : List Step} {document : Document} {required : List String} {element : Schema}
  {fields rest : List (String × Schema)} {values : List (String × Document)}

theorem Schema.value_violations_eq_nil_iff {kinds : List ValueKind} {nonEmpty : Bool} :
    (Schema.value kinds nonEmpty).violations place document = [] ↔
      (Schema.value kinds nonEmpty).Admits document := by
  simp only [Schema.violations, List.map_eq_nil_iff, List.append_eq_nil_iff,
    kindBreach_eq_nil_iff, emptyBreach_eq_nil_iff]
  constructor
  · intro parts
    exact .value parts.1 parts.2
  · intro admits
    cases admits with
    | value kind filled => exact ⟨kind, filled⟩

/-- A list is as good as its elements, and nothing else is a list. -/
theorem Schema.list_violations_eq_nil_iff
    (each : ∀ place value, element.violations place value = [] ↔ element.Admits value) :
    (Schema.list element).violations place document = [] ↔
      (Schema.list element).Admits document := by
  cases document with
  | list elements =>
    simp only [Schema.violations, List.flatten_eq_nil_iff, List.forall_mem_map,
      List.forall_mem_zipIdx', each]
    constructor
    · intro admitted
      refine .list ?_
      intro value member
      rcases List.getElem_of_mem member with ⟨index, inside, rfl⟩
      exact admitted index inside
    · intro admits
      cases admits with
      | list each => exact fun index inside => each _ (List.getElem_mem inside)
  | _ =>
    simp only [Schema.violations, List.map_eq_nil_iff, kindBreach_eq_nil_iff]
    constructor
    · intro array
      simp [ValueKind.admits] at array
    · intro admits
      cases admits

/-- An object is as good as its names and its fields, and nothing else is an object. -/
theorem Schema.record_violations_eq_nil_iff
    (each : ∀ place values, fieldViolations place values fields = [] ↔
      ∀ name schema value, (name, schema) ∈ fields →
        Document.field? values name = some value → schema.Admits value) :
    (Schema.record required fields).violations place document = [] ↔
      (Schema.record required fields).Admits document := by
  cases document with
  | object values =>
    simp only [Schema.violations, List.append_eq_nil_iff, List.map_eq_nil_iff,
      unexpectedBreach_eq_nil_iff, missingBreaches_eq_nil_iff, each]
    constructor
    · intro parts
      rcases parts with ⟨⟨known, complete⟩, each⟩
      exact .record known complete each
    · intro admits
      cases admits with
      | record known complete each => exact ⟨⟨known, complete⟩, each⟩
  | _ =>
    simp only [Schema.violations, List.map_eq_nil_iff, kindBreach_eq_nil_iff]
    constructor
    · intro object
      simp [ValueKind.admits] at object
    · intro admits
      cases admits

theorem fieldViolations_cons_eq_nil_iff {name : String} {schema : Schema}
    (first : ∀ place value, schema.violations place value = [] ↔ schema.Admits value) :
    fieldViolations place values ((name, schema) :: rest) = [] ↔
      (∀ value, Document.field? values name = some value → schema.Admits value) ∧
        fieldViolations place values rest = [] := by
  rw [fieldViolations, List.append_eq_nil_iff]
  refine and_congr_left' ?_
  cases Document.field? values name with
  | none => simp
  | some value => simp [first]

end Level

/-! ## Whole documents -/

mutual

/-- A document has no violations of a schema, wherever it stands, if and only if the schema admits
    it. -/
theorem Schema.violations_eq_nil_iff : ∀ (schema : Schema) (place : List Step)
    (document : Document), schema.violations place document = [] ↔ schema.Admits document
  | .value _ _, _, _ => Schema.value_violations_eq_nil_iff
  | .list element, _, _ =>
    Schema.list_violations_eq_nil_iff (Schema.violations_eq_nil_iff element)
  | .record _ fields, _, _ =>
    Schema.record_violations_eq_nil_iff (fieldViolations_eq_nil_iff fields)

/-- The same for the schemas of fields and the fields that are there. -/
theorem fieldViolations_eq_nil_iff : ∀ (fields : List (String × Schema)) (place : List Step)
    (values : List (String × Document)),
    fieldViolations place values fields = [] ↔ ∀ name schema value, (name, schema) ∈ fields →
      Document.field? values name = some value → schema.Admits value
  | [], _, _ => by simp [fieldViolations]
  | (name, schema) :: rest, place, values => by
    rw [fieldViolations_cons_eq_nil_iff (Schema.violations_eq_nil_iff schema),
      fieldViolations_eq_nil_iff rest place values]
    constructor
    · intro parts other otherSchema value member there
      rcases List.mem_cons.1 member with same | later
      · cases same
        exact parts.1 value there
      · exact parts.2 other otherSchema value later there
    · intro each
      refine ⟨fun value => each name schema value (by simp), ?_⟩
      intro other otherSchema value later
      exact each other otherSchema value (List.mem_cons_of_mem _ later)

end

/-- A document is reported without violations if and only if the schema admits it. -/
theorem Schema.report_eq_nil_iff {schema : Schema} {document : Document} :
    schema.report document = [] ↔ schema.Admits document := by
  rw [← violations_eq_nil_iff schema [] document, ← List.length_eq_zero_iff, report,
    List.length_mergeSort, List.length_eq_zero_iff]

/-! ## Configuration files -/

variable {fields : List (String × Document)} {entry value : Document} {entries : List Document}

theorem mem_names_iff {name : String} :
    name ∈ fields.map (·.1) ↔ ∃ value, Document.field? fields name = some value := by
  rw [← Option.isSome_iff_exists, Document.field?, List.lookup_isSome_iff, List.mem_map]
  exact exists_congr fun field => and_congr_right fun _ => eq_comm.trans beq_iff_eq.symm

theorem text_admits_iff :
    (Schema.value [.string] true).Admits value ↔ ∃ s, value = .text s ∧ s ≠ "" := by
  constructor
  · intro admits
    cases admits with
    | value kind filled =>
      cases value with
      | text s => exact ⟨s, rfl, fun same => filled rfl (congrArg _ same)⟩
      | _ => simp [ValueKind.admits] at kind
  · intro text
    rcases text with ⟨s, rfl, filled⟩
    exact .value ⟨.string, by simp, rfl⟩ fun _ same => filled (Document.text.inj same)

theorem booleanSchema_admits_iff :
    (Schema.value [.boolean] false).Admits value ↔ ∃ b, value = .bool b := by
  constructor
  · intro admits
    cases admits with
    | value kind =>
      cases value with
      | bool b => exact ⟨b, rfl⟩
      | _ => simp [ValueKind.admits] at kind
  · intro parts
    rcases parts with ⟨b, rfl⟩
    refine .value ⟨.boolean, by simp, rfl⟩ ?_
    intro filled
    cases filled

theorem listSchema_admits_iff {element : Schema} :
    (Schema.list element).Admits value ↔
      ∃ entries, value = .list entries ∧ ∀ entry ∈ entries, element.Admits entry := by
  constructor
  · intro admits
    cases admits with
    | list each => exact ⟨_, rfl, each⟩
  · intro parts
    rcases parts with ⟨entries, rfl, each⟩
    exact .list each

/-- The schema of a group, which may be a number or a name. -/
abbrev groupSchema : Schema := .value [.integer, .string] false

/-- What the schema of entries asks of the fields of an entry. -/
theorem entrySchema_admits_iff :
    entrySchema.Admits (.object fields) ↔
      (∀ name ∈ fields.map (·.1), name ∈ ["name", "pattern", "path_group", "line_group"]) ∧
      (∃ name, Document.field? fields "name" = some (.text name) ∧ name ≠ "") ∧
      (∃ source, Document.field? fields "pattern" = some (.text source) ∧ source ≠ "") ∧
      (∀ value, Document.field? fields "path_group" = some value → groupSchema.Admits value) ∧
      (∀ value, Document.field? fields "line_group" = some value → groupSchema.Admits value) := by
  have filled (name : String) (there : name ∈ fields.map (·.1))
      (admitted : ∀ value, Document.field? fields name = some value →
        (Schema.value [.string] true).Admits value) :
      ∃ s, Document.field? fields name = some (.text s) ∧ s ≠ "" := by
    rcases mem_names_iff.1 there with ⟨value, found⟩
    rcases text_admits_iff.1 (admitted value found) with ⟨s, rfl, filled⟩
    exact ⟨s, found, filled⟩
  constructor
  · intro admits
    rcases admits with _ | _ | ⟨known, complete, each⟩
    refine ⟨known, ?_, ?_, ?_, ?_⟩
    · exact filled "name" (complete _ (by simp)) fun value => each _ _ value (by simp)
    · exact filled "pattern" (complete _ (by simp)) fun value => each _ _ value (by simp)
    · exact fun value => each _ _ value (by simp)
    · exact fun value => each _ _ value (by simp)
  · intro parts
    rcases parts with ⟨known, ⟨name, named, hasName⟩, ⟨source, written, hasSource⟩, path, line⟩
    refine .record known ?_ ?_
    · simp only [List.mem_cons, List.not_mem_nil, or_false, forall_eq_or_imp, forall_eq,
        mem_names_iff]
      exact ⟨⟨_, named⟩, ⟨_, written⟩⟩
    · intro field schema value member there
      simp only [List.mem_cons, Prod.mk.injEq, List.not_mem_nil, or_false] at member
      rcases member with ⟨rfl, rfl⟩ | ⟨rfl, rfl⟩ | ⟨rfl, rfl⟩ | ⟨rfl, rfl⟩
      · obtain rfl := Option.some.inj (named.symm.trans there)
        exact text_admits_iff.2 ⟨name, rfl, hasName⟩
      · obtain rfl := Option.some.inj (written.symm.trans there)
        exact text_admits_iff.2 ⟨source, rfl, hasSource⟩
      · exact path value there
      · exact line value there

/-- What the schema of files asks of the fields of a file. -/
theorem fileSchema_admits_iff :
    fileSchema.Admits (.object fields) ↔
      (∀ name ∈ fields.map (·.1), name ∈ ["replace_defaults", "matchers"]) ∧
      (∀ value, Document.field? fields "replace_defaults" = some value → ∃ b, value = .bool b) ∧
      ∃ entries, Document.field? fields "matchers" = some (.list entries) ∧
        ∀ entry ∈ entries, entrySchema.Admits entry := by
  constructor
  · intro admits
    rcases admits with _ | _ | ⟨known, complete, each⟩
    refine ⟨known, ?_, ?_⟩
    · intro value there
      exact booleanSchema_admits_iff.1 (each _ _ value (by simp) there)
    · rcases mem_names_iff.1 (complete "matchers" (by simp)) with ⟨value, there⟩
      have listed := each "matchers" (.list entrySchema) value (by simp) there
      rcases listSchema_admits_iff.1 listed with ⟨entries, rfl, each⟩
      exact ⟨entries, there, each⟩
  · intro parts
    rcases parts with ⟨known, replaces, entries, listed, each⟩
    refine .record known ?_ ?_
    · simp only [List.mem_cons, List.not_mem_nil, or_false, forall_eq, mem_names_iff]
      exact ⟨_, listed⟩
    · intro field schema value member there
      simp only [List.mem_cons, Prod.mk.injEq, List.not_mem_nil, or_false] at member
      rcases member with ⟨rfl, rfl⟩ | ⟨rfl, rfl⟩
      · exact booleanSchema_admits_iff.2 (replaces value there)
      · obtain rfl := Option.some.inj (listed.symm.trans there)
        exact listSchema_admits_iff.2 ⟨entries, rfl, each⟩

theorem entriesOf_of_field?
    (listed : Document.field? fields "matchers" = some (.list entries)) :
    entriesOf fields = entries := by
  simp only [entriesOf, listed]

/-- The entries of a file that the schema admits are objects that the schema of entries admits. -/
theorem exists_object_of_mem_entriesOf
    (admits : fileSchema.Admits (.object fields)) (member : entry ∈ entriesOf fields) :
    ∃ values, entry = .object values ∧ entrySchema.Admits (.object values) := by
  rcases fileSchema_admits_iff.1 admits with ⟨_, _, entries, listed, each⟩
  rw [entriesOf_of_field? listed] at member
  have admitted := each entry member
  cases entry with
  | object values => exact ⟨values, rfl, admitted⟩
  | _ => cases admitted

end JavadocRepair.Configuration
