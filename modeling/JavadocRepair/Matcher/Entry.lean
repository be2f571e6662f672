import JavadocRepair.Matcher.Basic

/-!
# Matchers from entries

A matcher is built from an object with the fields `name`, `pattern`, `path_group` and `line_group`,
of which the groups may be left out. A list of entries gives a list of matchers, or the fault of
the first entry that has one.
-/

namespace JavadocRepair

/-- Why an entry gives no matcher: its fields are invalid, or its pattern is not read to its end for
    a fault that is no defect of it, or it is no object at all. -/
inductive EntryFault where
  | invalid (faults : List FieldFault)
  | unread (fault : Pattern.Fault)
  | notObject (kind : String)
  deriving Repr, DecidableEq

/-- Why a list of entries gives no matchers. -/
structure EntriesFault where
  index : Nat
  fault : EntryFault
  deriving Repr, DecidableEq

/-- The name of the kind of a value. -/
def Document.kind : Document → String
  | .null => "NoneType"
  | .bool _ => "bool"
  | .integer _ => "int"
  | .real _ => "float"
  | .text _ => "str"
  | .list _ => "list"
  | .object _ => "dict"

/-- The wording of a fault that is not one of fields. -/
def EntryFault.message : EntryFault → String
  | .invalid _ => ""
  | .unread fault => fault.message ""
  | .notObject kind =>
    "tools.atclause.models.MatcherDefinition() argument after ** must be a mapping, not " ++ kind

namespace Matcher

/-- The name of a matcher, which may not consist of blanks alone. -/
def nameOf (value : Document) : Except FieldProblem String :=
  match value.toText with
  | .error problem => .error problem
  | .ok name => if name.toList.all Text.isBlank then .error .blankName else .ok name

/-- A matcher with checked fields. The pattern is read, and then the path group and the line group
    are looked for in it. -/
def define (host : Host) (name source : String) (pathGroup lineGroup : GroupRef) :
    Except EntryFault Matcher :=
  let refuse (problem : FieldProblem) : Except EntryFault Matcher :=
    .error (.invalid [⟨[], problem⟩])
  match Pattern.read host source with
  | .error fault =>
    if fault.isDefect then refuse (.badPattern name source fault) else .error (.unread fault)
  | .ok pattern =>
    if hasPath : (pattern.groupIndex? pathGroup).isSome then
      if hasLine : (pattern.groupIndex? lineGroup).isSome then
        .ok ⟨name, pattern, pathGroup, lineGroup, hasPath, hasLine⟩
      else refuse (.noSuchGroup "line_group" lineGroup name)
    else refuse (.noSuchGroup "path_group" pathGroup name)

/-- Builds a matcher from fields; unknown ones are ignored. -/
def ofFields (host : Host) (fields : List (String × Document)) :
    Except EntryFault Matcher :=
  let name := requiredField nameOf "name" fields
  let source := requiredField Document.toText "pattern" fields
  let pathGroup := groupField 1 "path_group" fields
  let lineGroup := groupField 2 "line_group" fields
  match name, source, pathGroup, lineGroup with
  | .ok name, .ok source, .ok pathGroup, .ok lineGroup =>
    define host name source pathGroup lineGroup
  | name, source, pathGroup, lineGroup =>
    .error (.invalid
      (faultsOf name ++ faultsOf source ++ faultsOf pathGroup ++ faultsOf lineGroup))

/-- Builds a matcher from an entry. -/
def ofEntry (host : Host) : Document → Except EntryFault Matcher
  | .object fields => ofFields host fields
  | other => .error (.notObject other.kind)

/-- Builds matchers from entries of which the first has an index. -/
def ofEntriesFrom (host : Host) (index : Nat) :
    List Document → Except EntriesFault (List Matcher)
  | [] => .ok []
  | entry :: rest =>
    match ofEntry host entry with
    | .error fault => .error ⟨index, fault⟩
    | .ok matcher =>
      match ofEntriesFrom host (index + 1) rest with
      | .error fault => .error fault
      | .ok matchers => .ok (matcher :: matchers)

/-- Builds matchers from entries. -/
def ofEntries (host : Host) (entries : List Document) :
    Except EntriesFault (List Matcher) :=
  ofEntriesFrom host 0 entries

end Matcher

end JavadocRepair
