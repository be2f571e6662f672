import JavadocRepair.Field
import JavadocRepair.Pattern.Reader

/-!
# Matchers

A matcher recognises one format of log lines: a pattern for the whole line and the groups of it
that hold the path and the line number.
-/

namespace JavadocRepair

namespace Pattern

/-- The number of the group that a reference means, if the pattern has it. -/
def groupIndex? (pattern : Pattern) : GroupRef → Option Nat
  | .number n => if 0 < n ∧ n ≤ pattern.groups then some n.toNat else none
  | .name s => (pattern.names.lookup s).filter fun index => 0 < index && index ≤ pattern.groups

/-- The texts of the groups in a match of a whole line, first group first; a group that took no
    part has none. -/
def match? (pattern : Pattern) (line : String) : Option (List (Option String)) :=
  let subject := line.toList.toArray
  (pattern.root.matchAll? pattern.groups subject).map fun state =>
    (List.range pattern.groups).map fun index =>
      (state.span? (index + 1)).map fun (start, stop) =>
        String.ofList (subject.extract start stop).toList

end Pattern

/-- A format of log lines. Its groups are groups of its pattern. -/
structure Matcher where
  name : String
  pattern : Pattern
  pathGroup : GroupRef
  lineGroup : GroupRef
  hasPathGroup : (pattern.groupIndex? pathGroup).isSome
  hasLineGroup : (pattern.groupIndex? lineGroup).isSome
  deriving Repr, DecidableEq

end JavadocRepair
