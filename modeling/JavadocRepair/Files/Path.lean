/-!
# Paths

A path is a text. Slashes cut it into components, of which the empty ones say nothing and a dot
stays where it is; a slash at the end asks for a directory. The normal form leaves out what says
nothing, keeps going up as it is, and keeps two leading slashes, but not three.
-/

namespace JavadocRepair.Path

/-- The texts between slashes, behind a part of the first one, whose last character comes first. -/
def splitAtSlashes (part : List Char) : List Char → List String
  | [] => [String.ofList part.reverse]
  | c :: rest =>
    if c = '/' then String.ofList part.reverse :: splitAtSlashes [] rest
    else splitAtSlashes (c :: part) rest

/-- The components that say something. -/
def components (path : String) : List String :=
  (splitAtSlashes [] path.toList).filter fun part => part != "" && part != "."

/-- The slashes at the front of a normal form. -/
def root (path : String) : String :=
  match path.toList with
  | '/' :: '/' :: '/' :: _ => "/"
  | '/' :: '/' :: _ => "//"
  | '/' :: _ => "/"
  | _ => ""

/-- The normal form of a path. -/
def normal (path : String) : String :=
  let text := root path ++ "/".intercalate (components path)
  if text = "" then "." else text

/-- One step of the way that a path describes. -/
inductive Step where
  | here
  | up
  | down (name : String)
  deriving Repr, DecidableEq

/-- The step that a component stands for. -/
def Step.of (component : String) : Step :=
  if component = "." then .here else if component = ".." then .up else .down component

/-- A path begins with a slash. -/
def isAbsolute (path : String) : Bool :=
  path.toList.head? == some '/'

/-- A path ends with a slash. -/
def endsWithSlash (path : String) : Bool :=
  path.toList.getLast? == some '/'

/-- The steps of a path, without the one that a slash at the end asks for. -/
def steps (path : String) : List Step :=
  ((splitAtSlashes [] path.toList).filter (· != "")).map Step.of

/-- The steps of a path; a slash at the end has to stay in a directory. -/
def allSteps (path : String) : List Step :=
  steps path ++ if endsWithSlash path then [.here] else []

/-- The greatest number of bytes of a name. -/
def maxNameBytes : Nat := 255

/-- The number of bytes that a path may not reach. -/
def pathBytesLimit : Nat := 4096

end JavadocRepair.Path
