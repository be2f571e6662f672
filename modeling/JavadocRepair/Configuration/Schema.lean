import JavadocRepair.Host

/-!
# Schemas

A schema says which values a document may hold: a kind of value at each place, texts that are not
empty, lists of which all elements follow one schema, and objects with named fields and no others.
The violations of a schema are listed with the places where they are, all of them, sorted by place.
-/

namespace JavadocRepair.Configuration

/-- The kinds of values that a schema tells apart. A floating-point number without a fraction is an
    integer; a Boolean is not. -/
inductive ValueKind where
  | boolean
  | integer
  | string
  | array
  | object
  deriving Repr, DecidableEq

/-- The name of a kind. -/
def ValueKind.name : ValueKind → String
  | .boolean => "boolean"
  | .integer => "integer"
  | .string => "string"
  | .array => "array"
  | .object => "object"

/-- A value is of a kind. -/
def ValueKind.admits (kind : ValueKind) (value : Document) : Bool :=
  match kind, value with
  | .boolean, .bool _ => true
  | .integer, .integer _ => true
  | .integer, .real x => x.toInt?.isSome
  | .string, .text _ => true
  | .array, .list _ => true
  | .object, .object _ => true
  | _, _ => false

/-- A schema: a value of some kinds, a list of values, or an object of which some fields are
    required and no others than those named are allowed. -/
inductive Schema where
  | value (kinds : List ValueKind) (nonEmpty : Bool)
  | list (element : Schema)
  | record (required : List String) (fields : List (String × Schema))

/-- A step on the way to a place in a document. -/
inductive Step where
  | field (name : String)
  | element (index : Nat)
  deriving Repr, DecidableEq

/-- A step as text. -/
def Step.text : Step → String
  | .field name => name
  | .element index => toString index

/-- What a value does against its schema. -/
inductive Breach where
  | wrongKind (value : Document) (kinds : List ValueKind)
  | unexpectedFields (names : List String)
  | missingField (name : String)
  | emptyText
  deriving Repr

/-- The wording of a breach. -/
def Breach.message : Breach → String
  | .wrongKind value kinds =>
    let names := ", ".intercalate (kinds.map fun kind => Text.quoted kind.name)
    s!"{value.quoted} is not of type {names}"
  | .unexpectedFields names =>
    let shown := ", ".intercalate (names.map Text.quoted)
    let verb := if names.length = 1 then "was" else "were"
    s!"Additional properties are not allowed ({shown} {verb} unexpected)"
  | .missingField name => s!"{Text.quoted name} is a required property"
  | .emptyText => "'' should be non-empty"

/-- The stack is large enough for the wording of a breach. -/
def Breach.isShown (host : Host) : Breach → Bool
  | .wrongKind value _ => host.canShow value
  | _ => true

/-- A breach and the place where it is, from the top of the document. -/
structure SchemaViolation where
  place : List Step
  breach : Breach
  deriving Repr

namespace SchemaViolation

/-- The texts of the steps to the place of a violation. -/
def path (violation : SchemaViolation) : List String :=
  violation.place.map Step.text

/-- The wording of a violation. -/
def message (violation : SchemaViolation) : String :=
  let path := violation.path
  let place := if path.isEmpty then "<root>" else "/".intercalate path
  s!"{place}: {violation.breach.message}"

end SchemaViolation

/-- A value is of none of the kinds. -/
def kindBreach (kinds : List ValueKind) (value : Document) : List Breach :=
  if kinds.any (·.admits value) then [] else [.wrongKind value kinds]

/-- A text is empty where it should not be. -/
def emptyBreach (nonEmpty : Bool) (value : Document) : List Breach :=
  match value with
  | .text s => if nonEmpty && s = "" then [.emptyText] else []
  | _ => []

/-- Fields that are not allowed, in the order of their names. -/
def unexpectedBreach (allowed : List String) (fields : List (String × Document)) : List Breach :=
  let names := (fields.map (·.1)).filter fun name => !allowed.contains name
  if names.isEmpty then [] else [.unexpectedFields (names.mergeSort fun a b => a ≤ b)]

/-- Fields that are required and missing. -/
def missingBreaches (required : List String) (fields : List (String × Document)) : List Breach :=
  (required.filter fun name => !fields.any (·.1 == name)).map .missingField

mutual

/-- The violations of a schema by a value at a place, in the order of the schema. -/
def Schema.violations (place : List Step) : Schema → Document → List SchemaViolation
  | .value kinds nonEmpty, value =>
    (kindBreach kinds value ++ emptyBreach nonEmpty value).map (⟨place, ·⟩)
  | .list element, value =>
    match value with
    | .list elements =>
      (elements.zipIdx.map fun (value, index) =>
        element.violations (place ++ [.element index]) value).flatten
    | value => (kindBreach [.array] value).map (⟨place, ·⟩)
  | .record required fields, value =>
    match value with
    | .object values =>
      (unexpectedBreach (fields.map (·.1)) values ++ missingBreaches required values).map
          (⟨place, ·⟩)
        ++ fieldViolations place values fields
    | value => (kindBreach [.object] value).map (⟨place, ·⟩)

/-- The violations of the schemas of fields by the fields that are there. -/
def fieldViolations (place : List Step) (values : List (String × Document)) :
    List (String × Schema) → List SchemaViolation
  | [] => []
  | (name, schema) :: rest =>
    (match Document.field? values name with
      | some value => schema.violations (place ++ [.field name]) value
      | none => [])
      ++ fieldViolations place values rest

end

/-- Texts one after the other come before others; a beginning comes before the whole. -/
def pathLE : List String → List String → Bool
  | [], _ => true
  | _ :: _, [] => false
  | a :: as, b :: bs => if a = b then pathLE as bs else a < b

/-- All violations of a schema by a document, sorted by their places as texts; those at one place
    stay in the order of the schema. -/
def Schema.report (schema : Schema) (document : Document) : List SchemaViolation :=
  (schema.violations [] document).mergeSort fun a b => pathLE a.path b.path

/-- The schema of an entry for a matcher. -/
def entrySchema : Schema :=
  .record ["name", "pattern"]
    [("name", .value [.string] true), ("pattern", .value [.string] true),
      ("path_group", .value [.integer, .string] false),
      ("line_group", .value [.integer, .string] false)]

/-- The schema of a configuration file. -/
def fileSchema : Schema :=
  .record ["matchers"]
    [("replace_defaults", .value [.boolean] false), ("matchers", .list entrySchema)]

end JavadocRepair.Configuration
