import JavadocRepair.Proofs.Configuration.Breach
import JavadocRepair.Proofs.Configuration.Format

/-!
# The report of a schema

The report of a document has each constraint that the document breaks once, with its place, sorted
by the texts of the places. Those of one place stay together and in the order of the schema.
A configuration file is refused with this report if and only if it breaks any constraint.
-/

namespace JavadocRepair.Configuration

/-! ## Lists sorted by a key -/

section Sorted

variable {α β κ : Type} {key : α → κ} {content : α → β} {values : List α} {least : κ}
  {le : α → α → Bool} {chosen : α → Bool}

variable [LinearOrder κ] [DecidableEq κ]

end Sorted

/-! ## Paths -/

namespace Schema

variable {schema other part : Schema} {document value : Document}
  {place rest : List Step} {violation : SchemaViolation}

/-- What a report of a document is: the constraints that are broken, each of them once at its place.
    The places are sorted step by step as texts, a place before those below it, and one place comes
    all at once, in the order of the schema. -/
structure Reports (schema : Schema) (document : Document) (violations : List SchemaViolation) :
    Prop where
  complete : ∀ violation, violation ∈ violations ↔
    ∃ part value, schema.Governs document violation.place part value ∧
      part.Breaches value violation.breach
  once : (violations.map fun violation => (violation.place, violation.breach.constraint)).Nodup
  sorted : violations.Pairwise fun first second => first.path ≤ second.path
  fromTop : violations.Pairwise fun first second =>
    second.place <+: first.place → second.place = first.place
  schemaOrder : ∀ place part value, schema.Governs document place part value →
    ((violations.filter (·.place = place)).map (·.breach.constraint)).Sublist part.constraints
  adjacent : ∀ place, violations.filter (·.place = place) <:+: violations

end Schema

/-! ## Configuration files -/

variable {host : Host} {tree : FileTree} {path file : String} {bytes : List UInt8}
  {includeBuiltin : Option Bool} {document : Document} {fields : List (String × Document)}
  {violations : List SchemaViolation}

end JavadocRepair.Configuration
