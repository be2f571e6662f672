import JavadocRepair.Number.Shortest
import JavadocRepair.Text.Quoted

/-!
# Documents

The values of the JSON data format. Integers and floating-point numbers are told apart, and the
fields of an object keep their order. A value is shown inside messages the way source code would
write it: `None`, `True`, `False`, numbers, quoted texts, `[…]` and `{…}`.
-/

namespace JavadocRepair

/-- A value of the JSON data format. -/
inductive Document where
  | null
  | bool (b : Bool)
  | integer (n : Int)
  | real (x : Number.Binary64)
  | text (s : String)
  | list (elements : List Document)
  | object (fields : List (String × Document))
  deriving Repr

namespace Document

/-- The value of a field. -/
def field? (fields : List (String × Document)) (name : String) : Option Document :=
  fields.lookup name

/-- Sets a field: a new one goes to the end, an old one keeps its place. -/
def setField (fields : List (String × Document)) (name : String) (value : Document) :
    List (String × Document) :=
  if fields.any (·.1 == name) then
    fields.map fun field => if field.1 == name then (name, value) else field
  else fields ++ [(name, value)]

/-- Floating-point numbers are written positionally from 0.0001 up to below 10^16. -/
def layout : Number.Layout := ⟨-4, 16, 2⟩

mutual

/-- A value as messages show it. -/
def quoted : Document → String
  | .null => "None"
  | .bool true => "True"
  | .bool false => "False"
  | .integer n => toString n
  | .real x => x.render layout
  | .text s => Text.quoted s
  | .list elements => "[" ++ ", ".intercalate (quotedElements elements) ++ "]"
  | .object fields => "\x7b" ++ ", ".intercalate (quotedFields fields) ++ "\x7d"

/-- The elements of a list as messages show them. -/
def quotedElements : List Document → List String
  | [] => []
  | element :: rest => quoted element :: quotedElements rest

/-- The fields of an object as messages show them. -/
def quotedFields : List (String × Document) → List String
  | [] => []
  | (name, value) :: rest => (Text.quoted name ++ ": " ++ quoted value) :: quotedFields rest

end

end Document

end JavadocRepair
