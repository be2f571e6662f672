import JavadocRepair.CommandLine.Basic
import Mathlib.Data.List.Basic

/-!
# Arrangements of a command line

A command line with a log, perhaps a file of matchers and perhaps the verbose option means the same
in whatever order these stand. The command loads the matchers and runs on the log with them, and
the verbose option changes neither the files nor what is printed nor how the command ends. When the
matchers cannot be loaded, nothing has happened yet.
-/

namespace JavadocRepair.CommandLine

/-! ## Words -/

/-- A word that cannot be taken for an option. -/
def IsOperand (word : String) : Prop :=
  word.toList.head? ≠ some '-'

instance (word : String) : Decidable (IsOperand word) :=
  inferInstanceAs (Decidable (word.toList.head? ≠ some '-'))

theorem classify_of_isOperand {word : String} (operand : IsOperand word) :
    classify word = .ok .plain := by
  unfold classify
  dsimp only
  split
  · next dashed => simp [IsOperand, dashed] at operand
  · rfl

/-- Words without `--` among them are classified one by one. -/
theorem classifyAll_cons {word : String} {kind : Word} {rest : List String}
    {front : List (String × Word)} {back : List String} (inFront : word ≠ "--")
    (known : classify word = .ok kind) (others : classifyAll rest = .ok (front, back)) :
    classifyAll (word :: rest) = .ok ((word, kind) :: front, back) := by
  simp [classifyAll, inFront, known, others]

theorem ne_dashes_of_isOperand {word : String} (operand : IsOperand word) : word ≠ "--" := by
  rintro rfl
  exact operand rfl

/-! ## Arguments -/

/-- One thing that a command line says: the log, a file of matchers or that the command is to be
    verbose, which has a short and a long form. -/
inductive Argument where
  | log (path : String)
  | matchers (path : String)
  | verbose (long : Bool)
  deriving Repr, DecidableEq

namespace Argument

/-- The words that say it. -/
def words : Argument → List String
  | .log path => [path]
  | .matchers path => ["--matchers", path]
  | .verbose false => ["-v"]
  | .verbose true => ["--verbose"]

/-- The words with what they are. -/
def classified : Argument → List (String × Word)
  | .log path => [(path, .plain)]
  | .matchers path =>
    [("--matchers", .mention ⟨.matchers, "--matchers", none⟩), (path, .plain)]
  | .verbose false => [("-v", .mention ⟨.verbose, "-v", none⟩)]
  | .verbose true => [("--verbose", .mention ⟨.verbose, "--verbose", none⟩)]

/-- The paths in it cannot be taken for options. -/
def HasOperand : Argument → Prop
  | .log path => IsOperand path
  | .matchers path => IsOperand path
  | .verbose _ => True

end Argument

theorem classifyAll_flatMap {arguments : List Argument}
    (operands : ∀ argument ∈ arguments, argument.HasOperand) :
    classifyAll (arguments.flatMap Argument.words) =
      .ok (arguments.flatMap Argument.classified, []) := by
  induction arguments with
  | nil => rfl
  | cons argument arguments ih =>
    rcases List.forall_mem_cons.1 operands with ⟨operand, others⟩
    have rest := ih others
    rw [List.flatMap_cons, List.flatMap_cons]
    cases argument with
    | log path =>
      exact classifyAll_cons (ne_dashes_of_isOperand operand) (classify_of_isOperand operand) rest
    | matchers path =>
      exact classifyAll_cons (by decide) (by decide) <|
        classifyAll_cons (ne_dashes_of_isOperand operand) (classify_of_isOperand operand) rest
    | verbose long =>
      cases long with
      | false => exact classifyAll_cons (by decide) (by decide) rest
      | true => exact classifyAll_cons (by decide) (by decide) rest

/-- What has been read after one more argument. -/
def Progress.takeArgument (progress : Progress) : Argument → Progress
  | .log path => progress.takePlain path
  | .matchers path => { progress with matchers := path }
  | .verbose _ => { progress with verbose := true }

theorem takeFront_flatMap (progress : Progress) (arguments : List Argument) :
    progress.takeFront [] (arguments.flatMap Argument.classified) =
      .ok (arguments.foldl Progress.takeArgument progress) := by
  induction arguments generalizing progress with
  | nil => cases progress.log <;> simp [Progress.takeFront, Progress.takeBack]
  | cons argument arguments ih =>
    rw [List.flatMap_cons, List.foldl_cons, ← ih]
    cases argument with
    | log path => simp [Argument.classified, Progress.takeFront, Progress.takeArgument]
    | matchers path => simp [Argument.classified, Progress.takeFront, Progress.takeArgument]
    | verbose long =>
      cases long <;>
        simp [Argument.classified, Progress.takeFront, Progress.turnOn, Progress.takeArgument]

/-! ## Requests -/

/-- The arguments that ask for a run on a log with the matchers of a file, if one is named, and
    verbose in one of the two forms, if one is given. -/
def request (log : String) (matchers : Option String) (verbose : Option Bool) : List Argument :=
  .log log :: (matchers.toList.map .matchers ++ verbose.toList.map .verbose)

/-- A command line that says what a request does, in any order. -/
def Arranges (words : List String) (log : String) (matchers : Option String)
    (verbose : Option Bool) : Prop :=
  ∃ arguments : List Argument, arguments.Perm (request log matchers verbose) ∧
    words = arguments.flatMap Argument.words

variable {words : List String} {log : String} {matchers : Option String} {verbose : Option Bool}

theorem mem_request_iff {argument : Argument} :
    argument ∈ request log matchers verbose ↔
      argument = .log log ∨ (∃ path ∈ matchers, argument = .matchers path) ∨
        ∃ long ∈ verbose, argument = .verbose long := by
  simp [request, eq_comm]

/-- A request says nothing twice, so its arguments may be read in any order. -/
theorem takeArgument_comm {first second : Argument}
    (one : first ∈ request log matchers verbose) (other : second ∈ request log matchers verbose)
    (progress : Progress) :
    (progress.takeArgument first).takeArgument second =
      (progress.takeArgument second).takeArgument first := by
  -- different arguments set different fields, and two for the same field are the same argument
  rcases progress with ⟨_ | _, _, _, _⟩ <;>
    rcases mem_request_iff.1 one with rfl | ⟨path, named, rfl⟩ | ⟨_, _, rfl⟩ <;>
      rcases mem_request_iff.1 other with rfl | ⟨path', named', rfl⟩ | ⟨_, _, rfl⟩ <;>
        first
          | rfl
          | rw [Option.mem_unique named named']

theorem foldl_takeArgument_request :
    (request log matchers verbose).foldl Progress.takeArgument ⟨none, "", false, []⟩ =
      ⟨some log, matchers.getD "", verbose.isSome, []⟩ := by
  cases matchers <;> cases verbose <;> rfl

/-- A command line is read as what it says, in whatever order. -/
theorem parse_of_arranges (operand : IsOperand log) (operands : ∀ path ∈ matchers, IsOperand path)
    (arranges : Arranges words log matchers verbose) :
    parse words = .ok ⟨log, matchers.getD "", verbose.isSome⟩ := by
  rcases arranges with ⟨arguments, permuted, rfl⟩
  have each : ∀ argument ∈ arguments, argument.HasOperand := by
    intro argument member
    rcases mem_request_iff.1 (permuted.mem_iff.1 member) with rfl | ⟨path, named, rfl⟩ | ⟨_, _, rfl⟩
    · exact operand
    · exact operands path named
    · trivial
  have read : arguments.foldl Progress.takeArgument ⟨none, "", false, []⟩ =
      ⟨some log, matchers.getD "", verbose.isSome, []⟩ := by
    rw [← foldl_takeArgument_request]
    refine permuted.foldl_eq' ?_ _
    intro first one second other progress
    exact takeArgument_comm (permuted.mem_iff.1 one) (permuted.mem_iff.1 other) progress
  simp [parse, classifyAll_flatMap each, takeFront_flatMap, read]

/-! ## Commands -/

/-- The matchers of the file at a path, or the built-in ones if no path is given. -/
def matchersFor (host : Host) (tree : FileTree) :
    Option String → Except Configuration.Fault (List Matcher)
  | none => .ok Matcher.builtin
  | some path => Configuration.load host tree path none

/-- The matchers that options ask for; an empty path asks for none. -/
def Options.chosen (options : Options) (host : Host) (tree : FileTree) :
    Except Configuration.Fault (List Matcher) :=
  matchersFor host tree (if options.matchers = "" then none else some options.matchers)

/-- Why a run did not come to its end, as a failure of a command. -/
def failureOf (outcome : RunOutcome) : Option Failure :=
  match outcome.result with
  | .ok _ => none
  | .error fault => some (.run fault)

variable {host : Host} {tree : FileTree} {options : Options}

theorem execute_of_error {fault : Configuration.Fault}
    (failed : options.chosen host tree = .error fault) :
    execute host tree options = ⟨tree, "", "", some (.configuration fault)⟩ := by
  unfold Options.chosen at failed
  unfold execute
  split at failed
  · cases failed
  · next given =>
    rw [matchersFor] at failed
    simp only [if_neg given, failed]

theorem execute_of_ok {loaded : List Matcher} (chosen : options.chosen host tree = .ok loaded) :
    execute host tree options =
      ⟨(tree.run options.log loaded).tree, (tree.run options.log loaded).printed,
        if options.verbose then showEvents (tree.run options.log loaded).events else "",
        failureOf (tree.run options.log loaded)⟩ := by
  unfold Options.chosen at chosen
  unfold execute
  split at chosen
  · next unnamed =>
    cases chosen
    simp only [if_pos unnamed]
    rfl
  · next given =>
    rw [matchersFor] at chosen
    simp only [if_neg given, chosen]
    rfl

/-- The verbose option changes neither the files nor what is printed nor the failure. -/
theorem execute_of_same {other : Options} (log : other.log = options.log)
    (matchers : other.matchers = options.matchers) :
    (execute host tree other).out = (execute host tree options).out ∧
      (execute host tree other).tree = (execute host tree options).tree ∧
      (execute host tree other).failure = (execute host tree options).failure := by
  have chosen : other.chosen host tree = options.chosen host tree := by
    rw [Options.chosen, matchers, ← Options.chosen]
  cases made : options.chosen host tree with
  | error fault =>
    rw [execute_of_error made, execute_of_error (chosen.trans made)]
    exact ⟨rfl, rfl, rfl⟩
  | ok loaded =>
    rw [execute_of_ok made, execute_of_ok (chosen.trans made), log]
    exact ⟨rfl, rfl, rfl⟩

/-- The options that an arrangement is read as choose the matchers that it names. -/
theorem chosen_of_named (tree : FileTree) (named : ∀ path ∈ matchers, path ≠ "") (shown : Bool) :
    Options.chosen ⟨log, matchers.getD "", shown⟩ host tree =
      matchersFor host tree matchers := by
  cases matchers with
  | none => rfl
  | some path => simp [Options.chosen, named path rfl]

/-- A command is the loading of its matchers, and then a run on its log with them, whatever the
    order of its words and whether it is verbose or not. If the matchers cannot be loaded, it prints
    nothing, leaves the files alone and fails as the loading does. Otherwise it prints what the run
    prints, leaves the files that the run leaves and fails as the run does. Every other arrangement,
    verbose or not, does the same. -/
theorem command_of_arranges (tree : FileTree) (operand : IsOperand log)
    (named : ∀ path ∈ matchers, path ≠ "" ∧ IsOperand path)
    (arranges : Arranges words log matchers verbose) :
    (∀ fault, matchersFor host tree matchers = .error fault →
      (command host tree words).out = "" ∧ (command host tree words).tree = tree ∧
        (command host tree words).failure = some (.configuration fault)) ∧
    (∀ loaded, matchersFor host tree matchers = .ok loaded →
      (command host tree words).out = (tree.run log loaded).printed ∧
        (command host tree words).tree = (tree.run log loaded).tree ∧
        (command host tree words).failure = failureOf (tree.run log loaded)) ∧
    ∀ others shown, Arranges others log matchers shown →
      (command host tree others).out = (command host tree words).out ∧
        (command host tree others).tree = (command host tree words).tree ∧
        (command host tree others).failure = (command host tree words).failure := by
  have executed {words : List String} {verbose : Option Bool}
      (arranges : Arranges words log matchers verbose) : command host tree words =
        execute host tree ⟨log, matchers.getD "", verbose.isSome⟩ := by
    rw [command, parse_of_arranges operand (fun path member => (named path member).2) arranges]
  have chosen (shown : Bool) :
      Options.chosen ⟨log, matchers.getD "", shown⟩ host tree =
        matchersFor host tree matchers :=
    chosen_of_named tree (fun path member => (named path member).1) shown
  refine ⟨?_, ?_, ?_⟩
  · intro fault failed
    rw [executed arranges, execute_of_error ((chosen _).trans failed)]
    exact ⟨rfl, rfl, rfl⟩
  · intro loaded made
    rw [executed arranges, execute_of_ok ((chosen _).trans made)]
    exact ⟨rfl, rfl, rfl⟩
  · intro others shown rearranged
    rw [executed arranges, executed rearranged]
    exact execute_of_same rfl rfl

/-- A log with one violation, its file, and a file with a matcher for it. -/
def configured : FileTree where
  entries := [(["log"], .file (Text.bytesOfLines ["A:2"])),
    (["A"], .file (Text.bytesOfLines [" * a"])),
    (["config"], .file (Text.bytesOfLines [
      "\x7b\"matchers\": [\x7b\"name\": \"colon\", \"pattern\": \"(.*):(\\\\d+)\"\x7d]\x7d"]))]
  workingDirectory := []

theorem command_of_arranges_configured :
    Arranges ["-v", "log", "--matchers", "config"] "log" (some "config") (some false) ∧
    (command .ascii configured ["-v", "log", "--matchers", "config"]).out =
      "Fixing 1 at-clause violations\n" ∧
    (command .ascii configured ["-v", "log", "--matchers", "config"]).tree.entryAt? ["A"] =
      some (.file (Text.bytesOfLines [" * a", " *"])) ∧
    (command .ascii configured ["-v", "log", "--matchers", "config"]).failure = none ∧
    (command .ascii configured ["--matchers", "config", "log"]).out =
      (command .ascii configured ["-v", "log", "--matchers", "config"]).out ∧
    (command .ascii configured ["--matchers", "config", "log"]).tree =
      (command .ascii configured ["-v", "log", "--matchers", "config"]).tree ∧
    (command .ascii configured ["log", "--matchers", "missing", "--verbose"]).out = "" ∧
    (command .ascii configured ["log", "--matchers", "missing", "--verbose"]).tree = configured ∧
    (command .ascii configured ["log", "--matchers", "missing", "--verbose"]).failure =
      some (.configuration (.unreadable "missing" .notFound)) := by
  have operand : IsOperand "log" := by decide
  have operands : ∀ path ∈ ["config", "missing"], path ≠ "" ∧ IsOperand path := by decide
  have first : Arranges ["-v", "log", "--matchers", "config"] "log" (some "config")
      (some false) :=
    ⟨[.verbose false, .log "log", .matchers "config"], by decide, rfl⟩
  have second : Arranges ["--matchers", "config", "log"] "log" (some "config") none :=
    ⟨[.matchers "config", .log "log"], by decide, rfl⟩
  have third : Arranges ["log", "--matchers", "missing", "--verbose"] "log" (some "missing")
      (some true) :=
    ⟨[.log "log", .matchers "missing", .verbose true], by decide, rfl⟩
  have ran : (matchersFor .ascii configured (some "config")).toOption.map (fun loaded =>
      ((configured.run "log" loaded).printed, (configured.run "log" loaded).tree.entryAt? ["A"],
        (failureOf (configured.run "log" loaded)).isNone)) =
      some ("Fixing 1 at-clause violations\n",
        some (.file (Text.bytesOfLines [" * a", " *"])), true) := by decide +kernel
  have absent : matchersFor .ascii configured (some "missing") =
      .error (.unreadable "missing" .notFound) := rfl
  cases made : matchersFor .ascii configured (some "config") with
  | error fault => simp [made, Except.toOption] at ran
  | ok loaded =>
    simp only [made, Except.toOption, Option.map_some, Option.some.injEq, Prod.mk.injEq] at ran
    rcases ran with ⟨printed, repaired, ended⟩
    rcases command_of_arranges configured operand
      (by rintro _ ⟨⟩; exact operands "config" (by decide)) first with ⟨_, whole, same⟩
    rcases command_of_arranges configured operand
      (by rintro _ ⟨⟩; exact operands "missing" (by decide)) third with ⟨stopped, _⟩
    rcases whole loaded made with ⟨out, tree, failure⟩
    rcases same _ _ second with ⟨sameOut, sameTree, _⟩
    refine ⟨first, out.trans printed, ?_, ?_, sameOut, sameTree, stopped _ absent⟩
    · rw [tree, repaired]
    · rw [failure, Option.isNone_iff_eq_none.1 ended]

end JavadocRepair.CommandLine
