import JavadocRepair.Configuration.Schema
import JavadocRepair.Document.Reader
import JavadocRepair.Files.Tree
import JavadocRepair.Matcher.Builtin
import JavadocRepair.Matcher.Entry

/-!
# Configuration files

A configuration file is a JSON document with a list of entries for matchers. They are tried after
the built-in ones, unless the file or the caller leaves these out. No two matchers may have one
name.
-/

namespace JavadocRepair.Configuration

/-- Why a configuration file gives no matchers. -/
inductive Fault where
  | unreadable (path : String) (fault : OpenFault)
  | embeddedNull
  | notJson (path : String)
  | mismatch (path : String) (violations : List SchemaViolation)
  | entries (fault : EntriesFault)
  | repeatedNames (names : List String)
  deriving Repr

/-- The wording of a fault, as far as it goes without the list of the faults of an entry and
    without the place where a text stops being JSON. -/
def Fault.message : Fault → String
  | .unreadable path fault => s!"could not read matcher file {path}: {fault.message path}"
  | .embeddedNull => OpenFault.embeddedNull.message ""
  | .notJson path => s!"matcher file {path} is not valid JSON"
  | .mismatch path violations =>
    let details := "; ".intercalate (violations.map (·.message))
    s!"matcher file {path} does not match schema: {details}"
  | .entries ⟨index, .invalid _⟩ => s!"matcher #{index} is invalid"
  | .entries ⟨_, fault⟩ => fault.message
  | .repeatedNames names => "duplicate matcher names: " ++ ", ".intercalate names

/-- The entries of a configuration file. -/
def entriesOf (fields : List (String × Document)) : List Document :=
  match Document.field? fields "matchers" with
  | some (.list entries) => entries
  | _ => []

/-- A configuration file leaves the built-in matchers out. -/
def replacesBuiltin (fields : List (String × Document)) : Bool :=
  match Document.field? fields "replace_defaults" with
  | some (.bool replaced) => replaced
  | _ => false

/-- The texts that occur more than once, each once, in order. -/
def repeated (names : List String) : List String :=
  ((names.filter fun name => 1 < names.count name).eraseDups).mergeSort fun a b => a ≤ b

/-- The matchers of a document that follows the schema. -/
def matchersOf (host : Host) (fields : List (String × Document))
    (includeBuiltin : Option Bool) : Except Fault (List Matcher) :=
  match Matcher.ofEntries host (entriesOf fields) with
  | .error fault => .error (.entries fault)
  | .ok custom =>
    let matchers :=
      if includeBuiltin.getD (!replacesBuiltin fields) then Matcher.builtin ++ custom else custom
    match repeated (matchers.map (·.name)) with
    | [] => .ok matchers
    | names => .error (.repeatedNames names)

/-- The matchers of a file at a path with some bytes. -/
def ofBytes (host : Host) (path : String) (bytes : List UInt8)
    (includeBuiltin : Option Bool) : Except Fault (List Matcher) :=
  match Document.ofBytes? .standard bytes with
  | none => .error (.notJson path)
  | some document =>
    match fileSchema.report document, document with
    | [], .object fields => matchersOf host fields includeBuiltin
    | violations, _ => .error (.mismatch path violations)

/-- The matchers of the configuration file at a path, which is brought into its normal form. -/
def load (host : Host) (tree : FileTree) (path : String) (includeBuiltin : Option Bool) :
    Except Fault (List Matcher) :=
  let path := Path.normal path
  match tree.read path with
  | .error .embeddedNull => .error .embeddedNull
  | .error fault => .error (.unreadable path fault)
  | .ok bytes => ofBytes host path bytes includeBuiltin

end JavadocRepair.Configuration
