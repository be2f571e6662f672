import JavadocRepair.Document.Basic
import JavadocRepair.Number.Integer
import JavadocRepair.Pattern.Fault

/-!
# Checking fields

Violations and matchers are built from the fields of an object. Every field is checked, and the
faults of all of them are reported together, each with the place where it was found. Numbers may
come as integers, as Booleans, as floating-point numbers without a fraction and, where texts are
not kept, as decimal numerals; texts come as texts only.
-/

namespace JavadocRepair

/-- A group of a pattern, by its number or by its name. -/
inductive GroupRef where
  | number (n : Int)
  | name (s : String)
  deriving Repr, DecidableEq

/-- A group reference as messages show it. -/
def GroupRef.quoted : GroupRef → String
  | .number n => toString n
  | .name s => Text.quoted s

/-- What is wrong with a field, or with the fields together. -/
inductive FieldProblem where
  | missing
  | notText
  | notInteger
  | noNumeral
  | outOfRange
  | fractional
  | belowOne
  | frozen
  | blankName
  | badPattern (matcher source : String) (fault : Pattern.Fault)
  | noSuchGroup (field : String) (group : GroupRef) (matcher : String)
  deriving Repr, DecidableEq

namespace FieldProblem

/-- The short name of a kind of problem. -/
def code : FieldProblem → String
  | missing => "missing"
  | notText => "string_type"
  | notInteger => "int_type"
  | noNumeral => "int_parsing"
  | outOfRange => "int_parsing_size"
  | fractional => "int_from_float"
  | belowOne => "greater_than_equal"
  | frozen => "frozen_instance"
  | blankName => "value_error"
  | badPattern _ _ _ => "value_error"
  | noSuchGroup _ _ _ => "value_error"

/-- What is said about a text that is no pattern: a malformed one is named with its matcher, and
    flags and counts speak for themselves. -/
def patternMessage (matcher source : String) (fault : Pattern.Fault) : String :=
  match fault with
  | .conflictingTypes => fault.message source
  | .countTooLong _ => fault.message source
  | _ => s!"invalid pattern for matcher {Text.quoted matcher}: {fault.message source}"

/-- The wording of a problem. -/
def message : FieldProblem → String
  | missing => "Field required"
  | notText => "Input should be a valid string"
  | notInteger => "Input should be a valid integer"
  | noNumeral => "Input should be a valid integer, unable to parse string as an integer"
  | outOfRange => "Unable to parse input string as an integer, exceeded maximum size"
  | fractional => "Input should be a valid integer, got a number with a fractional part"
  | belowOne => "Input should be greater than or equal to 1"
  | frozen => "Instance is frozen"
  | blankName => "Value error, matcher name must not be empty"
  | badPattern matcher source fault =>
    "Value error, " ++ patternMessage matcher source fault
  | noSuchGroup field group matcher =>
    s!"Value error, {field} {group.quoted} is not a group of matcher {Text.quoted matcher}"

end FieldProblem

/-- A problem and where it is: a field, or nowhere in particular. -/
structure FieldFault where
  location : List String
  problem : FieldProblem
  deriving Repr, DecidableEq

namespace Document

/-- An integer that a floating-point number stands for. It has to lie strictly between the least
    and the greatest 64-bit integers as floating-point numbers. -/
def integerOfReal (x : Number.Binary64) : Except FieldProblem Int :=
  match x.toInt? with
  | none => .error .fractional
  | some n => if -0x8000000000000000 < n ∧ n < 0x8000000000000000 then .ok n else .error .outOfRange

/-- A numeral without its fraction, if that holds nothing but zeros. -/
def dropZeroFraction (text : List Char) : List Char :=
  let (whole, fraction) := text.span (· != '.')
  match fraction with
  | '.' :: zeros => if zeros.all (· == '0') then whole else text
  | _ => text

/-- An integer that a text stands for. -/
def integerOfText (s : String) : Except FieldProblem Int :=
  let trimmed := Text.trimWith Text.isWhiteSpace s.toList
  if Number.maxDigits < trimmed.length then .error .outOfRange
  else
    match Number.readInteger? Text.isWhiteSpace Number.asciiDigit? (dropZeroFraction trimmed) with
    | some n => .ok n
    | none => .error .noNumeral

/-- An integer that a value stands for. -/
def toInteger : Document → Except FieldProblem Int
  | .integer n => .ok n
  | .bool b => .ok (if b then 1 else 0)
  | .real x => integerOfReal x
  | .text s => integerOfText s
  | _ => .error .notInteger

/-- A text. -/
def toText : Document → Except FieldProblem String
  | .text s => .ok s
  | _ => .error .notText

end Document

/-- Checks a field that has to be there. -/
def requiredField {α : Type} (check : Document → Except FieldProblem α) (name : String)
    (fields : List (String × Document)) : Except (List FieldFault) α :=
  match Document.field? fields name with
  | none => .error [⟨[name], .missing⟩]
  | some value =>
    match check value with
    | .ok a => .ok a
    | .error problem => .error [⟨[name], problem⟩]

/-- Checks a group reference, which may be left out. A text is a name and anything else has to be
    an integer; what is neither has a fault on each of the two counts. -/
def groupField (otherwise : Int) (name : String) (fields : List (String × Document)) :
    Except (List FieldFault) GroupRef :=
  match Document.field? fields name with
  | none => .ok (.number otherwise)
  | some (.text s) => .ok (.name s)
  | some value =>
    match value.toInteger with
    | .ok n => .ok (.number n)
    | .error problem => .error [⟨[name, "int"], problem⟩, ⟨[name, "str"], .notText⟩]

/-- The faults of a check. -/
def faultsOf {α : Type} : Except (List FieldFault) α → List FieldFault
  | .ok _ => []
  | .error faults => faults

end JavadocRepair
