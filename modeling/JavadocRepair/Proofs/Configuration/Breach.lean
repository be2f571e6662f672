import Mathlib
import JavadocRepair.Configuration.Schema

/-!
# The breaches of a schema

A schema governs the values of a document place by place, and each of its constraints on a value is
broken by that value or not, which is stated here apart from the list of violations. The list has
exactly the constraints that are broken, each with the place of the value that breaks it.
-/

namespace JavadocRepair.Configuration

/-! ## Constraints -/

/-- The constraints that a schema puts on a value. -/
inductive Constraint where
  | kind
  | knownFields
  | required (name : String)
  | filled
  deriving DecidableEq

/-- The constraint that a breach breaks. -/
def Breach.constraint : Breach → Constraint
  | .wrongKind _ _ => .kind
  | .unexpectedFields _ => .knownFields
  | .missingField name => .required name
  | .emptyText => .filled

namespace Schema

/-- The kinds of the values that a schema is for. -/
def kinds : Schema → List ValueKind
  | .value kinds _ => kinds
  | .list _ => [.array]
  | .record _ _ => [.object]

/-- The constraints of a schema on a value, apart from those on what is inside it, in the order of
    the schema. -/
def constraints : Schema → List Constraint
  | .value _ nonEmpty => .kind :: if nonEmpty then [.filled] else []
  | .list _ => [.kind]
  | .record required _ => .kind :: .knownFields :: required.map .required

/-- The part of a schema that governs the value at a place of a document. -/
inductive Governs : Schema → Document → List Step → Schema → Document → Prop
  | root (schema : Schema) (document : Document) : Governs schema document [] schema document
  | element {element part : Schema} {elements : List Document} {inner value : Document}
      {index : Nat} {place : List Step} (there : elements[index]? = some inner)
      (inside : Governs element inner place part value) :
      Governs (.list element) (.list elements) (.element index :: place) part value
  | field {required : List String} {fields : List (String × Schema)} {schema part : Schema}
      {values : List (String × Document)} {inner value : Document} {name : String}
      {place : List Step} (known : (name, schema) ∈ fields)
      (there : Document.field? values name = some inner)
      (inside : Governs schema inner place part value) :
      Governs (.record required fields) (.object values) (.field name :: place) part value

/-- What a value does against the schema that governs it. -/
inductive Breaches : Schema → Document → Breach → Prop
  | wrongKind {schema : Schema} {value : Document}
      (none : ∀ kind ∈ schema.kinds, kind.admits value = false) :
      Breaches schema value (.wrongKind value schema.kinds)
  | unexpectedFields {required names : List String} {fields : List (String × Schema)}
      {values : List (String × Document)}
      (unknown : names.Perm ((values.map (·.1)).filter fun name => name ∉ fields.map (·.1)))
      (sorted : names.Pairwise (· ≤ ·)) (some : names ≠ []) :
      Breaches (.record required fields) (.object values) (.unexpectedFields names)
  | missingField {required : List String} {fields : List (String × Schema)}
      {values : List (String × Document)} {name : String} (needed : name ∈ required)
      (missing : name ∉ values.map (·.1)) :
      Breaches (.record required fields) (.object values) (.missingField name)
  | emptyText {kinds : List ValueKind} : Breaches (.value kinds true) (.text "") .emptyText

variable {schema part inner : Schema} {document value : Document} {breach : Breach}
  {place rest : List Step} {step : Step} {violation : SchemaViolation}
  {values : List (String × Document)}

/-! ## One value -/

theorem mem_kindBreach_iff {kinds : List ValueKind} :
    breach ∈ kindBreach kinds value ↔
      (∀ kind ∈ kinds, kind.admits value = false) ∧ breach = .wrongKind value kinds := by
  unfold kindBreach
  split
  · next some =>
    rcases List.any_eq_true.1 some with ⟨kind, member, admitted⟩
    refine ⟨by simp, ?_⟩
    rintro ⟨none, _⟩
    rw [none kind member] at admitted
    cases admitted
  · next none =>
    rw [Bool.not_eq_true, List.any_eq_false] at none
    simp_all

theorem mem_emptyBreach_iff {nonEmpty : Bool} :
    breach ∈ emptyBreach nonEmpty value ↔
      nonEmpty = true ∧ value = .text "" ∧ breach = .emptyText := by
  cases value with
  | text s =>
    simp only [emptyBreach, Document.text.injEq]
    split <;> simp_all
  | _ => simp [emptyBreach]

/-- There is one way only to sort names. -/
theorem mem_unexpectedBreach_iff {allowed : List String} :
    breach ∈ unexpectedBreach allowed values ↔
      ∃ names, names.Perm ((values.map (·.1)).filter fun name => name ∉ allowed) ∧
        names.Pairwise (· ≤ ·) ∧ names ≠ [] ∧ breach = .unexpectedFields names := by
  have same : (values.map (·.1)).filter (fun name => !allowed.contains name) =
      (values.map (·.1)).filter fun name => name ∉ allowed := by simp
  unfold unexpectedBreach
  rw [same]
  generalize (values.map (·.1)).filter (fun name => name ∉ allowed) = unknown
  have perm := List.mergeSort_perm unknown fun a b => a ≤ b
  have sorted : (unknown.mergeSort fun a b => a ≤ b).Pairwise (· ≤ ·) :=
    List.pairwise_mergeSort' (· ≤ ·) unknown
  dsimp only
  split
  · next none =>
    rw [List.isEmpty_iff] at none
    subst none
    simp
  · next some =>
    rw [List.mem_singleton]
    constructor
    · rintro rfl
      refine ⟨_, perm, sorted, ?_, rfl⟩
      intro empty
      rw [empty] at perm
      exact some (List.isEmpty_iff.2 perm.symm.eq_nil)
    · rintro ⟨names, perm', sorted', _, rfl⟩
      rw [(perm'.trans perm.symm).eq_of_pairwise (fun _ _ _ _ => le_antisymm) sorted' sorted]

theorem mem_missingBreaches_iff {required : List String} :
    breach ∈ missingBreaches required values ↔
      ∃ name ∈ required, name ∉ values.map (·.1) ∧ breach = .missingField name := by
  have missing (name : String) :
      (!values.any (·.1 == name)) = true ↔ name ∉ values.map (·.1) := by
    simp only [Bool.not_eq_true', List.any_eq_false, beq_iff_eq, List.mem_map, not_exists, not_and]
  simp only [missingBreaches, List.mem_map, List.mem_filter, missing, and_assoc,
    @eq_comm _ breach]

/-- The breaches of a schema by a value, apart from those inside it. -/
def ownBreaches (schema : Schema) (value : Document) : List Breach :=
  kindBreach schema.kinds value ++
    match schema, value with
    | .value _ nonEmpty, value => emptyBreach nonEmpty value
    | .record required fields, .object values =>
      unexpectedBreach (fields.map (·.1)) values ++ missingBreaches required values
    | _, _ => []

theorem mem_ownBreaches_iff : breach ∈ schema.ownBreaches value ↔ schema.Breaches value breach := by
  unfold ownBreaches
  rw [List.mem_append, mem_kindBreach_iff]
  constructor
  · rintro (⟨none, rfl⟩ | other)
    · exact .wrongKind none
    · split at other
      · rcases mem_emptyBreach_iff.1 other with ⟨rfl, rfl, rfl⟩
        exact .emptyText
      · rcases List.mem_append.1 other with unexpected | missing
        · rcases mem_unexpectedBreach_iff.1 unexpected with ⟨names, unknown, sorted, some, rfl⟩
          exact .unexpectedFields unknown sorted some
        · rcases mem_missingBreaches_iff.1 missing with ⟨name, needed, absent, rfl⟩
          exact .missingField needed absent
      · cases other
  · intro breaches
    cases breaches with
    | wrongKind none => exact .inl ⟨none, rfl⟩
    | unexpectedFields unknown sorted some =>
      exact .inr (List.mem_append_left _
        (mem_unexpectedBreach_iff.2 ⟨_, unknown, sorted, some, rfl⟩))
    | missingField needed missing =>
      exact .inr (List.mem_append_right _ (mem_missingBreaches_iff.2 ⟨_, needed, missing, rfl⟩))
    | emptyText => exact .inr (mem_emptyBreach_iff.2 ⟨rfl, rfl, rfl⟩)

/-! ## One step into a document -/

/-- The values one step inside a document, with the schemas that govern them. -/
def parts : Schema → Document → List (Step × Schema × Document)
  | .list element, .list elements =>
    elements.zipIdx.map fun (inner, index) => (.element index, element, inner)
  | .record _ fields, .object values =>
    fields.filterMap fun (name, schema) =>
      (Document.field? values name).map fun inner => (.field name, schema, inner)
  | _, _ => []

theorem fieldViolations_eq (fields : List (String × Schema)) :
    fieldViolations place values fields =
      (fields.filterMap fun (name, schema) =>
        (Document.field? values name).map fun inner => (Step.field name, schema, inner)).flatMap
          fun part => part.2.1.violations (place ++ [part.1]) part.2.2 := by
  induction fields with
  | nil => rfl
  | cons field rest ih =>
    rcases field with ⟨name, schema⟩
    rw [fieldViolations, ih]
    cases there : Document.field? values name with
    | none => simp [there]
    | some inner => simp [there]

/-- The violations of a value are its own, and behind them those of the values inside it. -/
theorem violations_eq (schema : Schema) (place : List Step) (document : Document) :
    schema.violations place document =
      (schema.ownBreaches document).map (⟨place, ·⟩) ++
        (schema.parts document).flatMap fun part =>
          part.2.1.violations (place ++ [part.1]) part.2.2 := by
  cases schema with
  | value _ _ => simp [violations, ownBreaches, parts, kinds]
  | list element =>
    cases document with
    | list elements =>
      have admitted : kindBreach [.array] (.list elements) = [] := rfl
      simp [violations, ownBreaches, parts, kinds, admitted, List.flatMap_def, Function.comp_def]
    | _ => simp [violations, ownBreaches, parts, kinds]
  | record required fields =>
    cases document with
    | object values =>
      have admitted : kindBreach [.object] (.object values) = [] := rfl
      simp only [violations, ownBreaches, parts, kinds, admitted, List.nil_append,
        fieldViolations_eq]
    | _ => simp [violations, ownBreaches, parts, kinds]

theorem governs_nil_iff :
    schema.Governs document [] part value ↔ part = schema ∧ value = document := by
  constructor
  · intro governs
    cases governs
    exact ⟨rfl, rfl⟩
  · rintro ⟨rfl, rfl⟩
    exact .root _ _

theorem governs_cons_iff :
    schema.Governs document (step :: rest) part value ↔
      ∃ inside ∈ schema.parts document, inside.1 = step ∧
        inside.2.1.Governs inside.2.2 rest part value := by
  constructor
  · intro governs
    cases governs with
    | @element element _ _ inner _ index _ there inside =>
      exact ⟨(.element index, element, inner),
        List.mem_map.2 ⟨(inner, index), List.mem_zipIdx_iff_getElem?.2 there, rfl⟩, rfl, inside⟩
    | @field _ _ schema _ _ inner _ name _ known there inside =>
      refine ⟨(.field name, schema, inner), List.mem_filterMap.2 ⟨_, known, ?_⟩, rfl, inside⟩
      simp [there]
  · rintro ⟨⟨_, inner, content⟩, member, rfl, governs⟩
    unfold parts at member
    split at member
    · rcases List.mem_map.1 member with ⟨_, there, same⟩
      cases same
      exact .element (List.mem_zipIdx_iff_getElem?.1 there) governs
    · rcases List.mem_filterMap.1 member with ⟨⟨name, schema⟩, known, there⟩
      rcases Option.map_eq_some_iff.1 there with ⟨_, there, same⟩
      cases same
      exact .field known there governs
    · cases member

theorem sizeOf_lt_of_mem_parts {inside : Step × Schema × Document}
    (member : inside ∈ schema.parts document) : sizeOf inside.2.1 < sizeOf schema := by
  unfold parts at member
  split at member
  · rcases List.mem_map.1 member with ⟨_, _, rfl⟩
    simp
  · rcases List.mem_filterMap.1 member with ⟨⟨name, schema⟩, known, there⟩
    rcases Option.map_eq_some_iff.1 there with ⟨_, _, rfl⟩
    have smaller := List.sizeOf_lt_of_mem known
    simp only [Prod.mk.sizeOf_spec, record.sizeOf_spec] at smaller ⊢
    omega
  · cases member

/-! ## All of a document -/

/-- The violations are the breaches of the schemas that govern the values of the document, each at
    the place of its value. -/
theorem mem_violations_iff {schema : Schema} {place : List Step} {document : Document} :
    violation ∈ schema.violations place document ↔
      ∃ rest part value, violation.place = place ++ rest ∧
        schema.Governs document rest part value ∧ part.Breaches value violation.breach := by
  rw [violations_eq, List.mem_append, List.mem_map, List.mem_flatMap]
  have each (inside : Step × Schema × Document) (member : inside ∈ schema.parts document) :
      violation ∈ inside.2.1.violations (place ++ [inside.1]) inside.2.2 ↔
        ∃ rest part value, violation.place = place ++ [inside.1] ++ rest ∧
          inside.2.1.Governs inside.2.2 rest part value ∧ part.Breaches value violation.breach :=
    have := sizeOf_lt_of_mem_parts member
    mem_violations_iff
  constructor
  · rintro (⟨breach, member, rfl⟩ | ⟨inside, member, found⟩)
    · exact ⟨[], schema, document, (List.append_nil _).symm, .root _ _,
        mem_ownBreaches_iff.1 member⟩
    · rcases (each inside member).1 found with ⟨rest, part, value, at_place, governs, breaches⟩
      exact ⟨inside.1 :: rest, part, value, by simpa using at_place,
        governs_cons_iff.2 ⟨inside, member, rfl, governs⟩, breaches⟩
  · rintro ⟨rest, part, value, at_place, governs, breaches⟩
    cases rest with
    | nil =>
      rcases governs_nil_iff.1 governs with ⟨rfl, rfl⟩
      rw [List.append_nil] at at_place
      subst at_place
      exact .inl ⟨_, mem_ownBreaches_iff.2 breaches, rfl⟩
    | cons step rest =>
      rcases governs_cons_iff.1 governs with ⟨inside, member, rfl, inner⟩
      exact .inr ⟨inside, member,
        (each inside member).2 ⟨rest, part, value, by simpa using at_place, inner, breaches⟩⟩
termination_by sizeOf schema

end Schema

end JavadocRepair.Configuration
