import JavadocRepair.Field

/-!
# Violations

A violation names a file and the line, counted from 1, of an at-clause that lacks its blank line.
-/

namespace JavadocRepair

/-- A reported at-clause: its file and its line. -/
structure Violation where
  path : String
  lineNumber : Nat
  positive : 1 ≤ lineNumber
  deriving Repr, DecidableEq

namespace Violation

/-- A violation as messages show it. -/
def render (violation : Violation) : String :=
  s!"{violation.path}:{violation.lineNumber}"

/-- A line number, which has to be an integer from 1 on. -/
def lineNumberOf (value : Document) : Except FieldProblem { n : Nat // 1 ≤ n } :=
  match value.toInteger with
  | .error problem => .error problem
  | .ok n => if h : 1 ≤ n.toNat then .ok ⟨n.toNat, h⟩ else .error .belowOne

/-- Builds a violation from the fields `path` and `line_number`; others are ignored. -/
def ofFields (fields : List (String × Document)) : Except (List FieldFault) Violation :=
  let path := requiredField Document.toText "path" fields
  let lineNumber := requiredField lineNumberOf "line_number" fields
  match path, lineNumber with
  | .ok path, .ok ⟨n, h⟩ => .ok ⟨path, n, h⟩
  | path, lineNumber => .error (faultsOf path ++ faultsOf lineNumber)

/-- A violation cannot be changed: the fault of every attempt to set a field. -/
def setFault (field : String) : FieldFault := ⟨[field], .frozen⟩

end Violation

end JavadocRepair
