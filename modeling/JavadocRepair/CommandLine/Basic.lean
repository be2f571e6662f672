import JavadocRepair.CommandLine.Options
import JavadocRepair.Configuration.Basic
import JavadocRepair.Repair

/-!
# The command

The command reads its options, loads the matchers that they name and runs on the log. The verbose
option shows the events of the run and changes nothing else.
-/

namespace JavadocRepair.CommandLine

/-- One line that says how the command is used. -/
def usage : String :=
  "usage: fix-at-clauses [-h] [--matchers MATCHERS_PATH] [-v] log_path\n"

/-- The help text. -/
def helpText : String :=
  usage
    ++ "\n"
    ++ "Insert the blank Javadoc line Checkstyle's JavadocParagraph check asks for\n"
    ++ "before at-clauses.\n"
    ++ "\n"
    ++ "positional arguments:\n"
    ++ "  log_path              Path to the build or checkstyle log to scan\n"
    ++ "\n"
    ++ "options:\n"
    ++ "  -h, --help            show this help message and exit\n"
    ++ "  --matchers MATCHERS_PATH\n"
    ++ "                        JSON file with extra log formats (see\n"
    ++ "                        tools/atclause/schemas/matchers.schema.json)\n"
    ++ "  -v, --verbose         Log every match and patch to stderr\n"

/-- Why a command did not come to its end. -/
inductive Failure where
  | stop (stop : Stop)
  | configuration (fault : Configuration.Fault)
  | run (fault : RunFault)

/-- The outcome of a command: the tree after it, what it printed on its two outputs, and why it did
    not come to its end. -/
structure Outcome where
  tree : FileTree
  out : String
  err : String
  failure : Option Failure

/-- Events as lines. -/
def showEvents (events : List Event) : String :=
  String.join (events.map fun event => event.message ++ "\n")

/-- Runs on a log with the matchers of a file, or with the built-in ones if none is named. -/
def execute (host : Host) (tree : FileTree) (options : Options) : Outcome :=
  let matchers :=
    if options.matchers = "" then .ok Matcher.builtin
    else Configuration.load host tree options.matchers none
  match matchers with
  | .error fault => ⟨tree, "", "", some (.configuration fault)⟩
  | .ok matchers =>
    let outcome := tree.run options.log matchers
    let failure :=
      match outcome.result with
      | .ok _ => none
      | .error fault => some (Failure.run fault)
    let err := if options.verbose then showEvents outcome.events else ""
    ⟨outcome.tree, outcome.printed, err, failure⟩

/-- Carries out a command line. -/
def command (host : Host) (tree : FileTree) (words : List String) : Outcome :=
  match parse words with
  | .error .help => ⟨tree, helpText, "", some (.stop .help)⟩
  | .error (.fault fault) =>
    let err := usage ++ s!"fix-at-clauses: error: {fault.message}\n"
    ⟨tree, "", err, some (.stop (.fault fault))⟩
  | .ok options => execute host tree options

/-- The exit code of a command that did not come to its end. -/
def Failure.exitCode : Failure → UInt32
  | .stop .help => 0
  | .stop (.fault _) => 2
  | .configuration _ => 1
  | .run _ => 1

end JavadocRepair.CommandLine
