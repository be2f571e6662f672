import JavadocRepair.Proofs.CommandLine.Arrangement
import JavadocRepair.Proofs.Repair.History

/-!
# What calls of the tool change

Whatever is called, in which order and with what success, files and directories stay where they are,
and the bytes of a file change only if a violation names it that the call takes up. The file was a
text before, and it is a text afterwards in which every line ends in a line feed. So nothing is
truncated that could not be read, and nothing is written to a place where nothing was.
-/

namespace JavadocRepair

/-- A file, and not a directory. -/
def Entry.isFile : Entry → Bool
  | .file _ => true
  | .directory => false

namespace FileTree

variable {tree next after : FileTree} {violations first later : List Violation}

/-! ## Frames -/

/-- What a tree may become when violations are taken up: every path leads where it led, there are the
    same files and directories, and what has changed is a text file that a violation names and whose
    lines all end in a line feed now. -/
structure Frame (tree : FileTree) (violations : List Violation) (after : FileTree) : Prop where
  locate? : ∀ path, after.locate? path = tree.locate? path
  isFile : ∀ location,
    (after.entryAt? location).map Entry.isFile = (tree.entryAt? location).map Entry.isFile
  named : ∀ location, after.entryAt? location ≠ tree.entryAt? location →
    ∃ violation ∈ violations, tree.locate? violation.path = some location
  text : ∀ location, after.entryAt? location ≠ tree.entryAt? location →
    ∃ bytes chars, tree.entryAt? location = some (.file bytes) ∧
      Text.Utf8.decode bytes = .ok chars
  normal : ∀ location, after.entryAt? location ≠ tree.entryAt? location →
    ∃ bytes chars, after.entryAt? location = some (.file bytes) ∧
      Text.Utf8.decode bytes = .ok chars ∧ '\r' ∉ chars ∧ chars.getLast? = some '\n'

theorem frame_refl (tree : FileTree) (violations : List Violation) :
    Frame tree violations tree where
  locate? _ := rfl
  isFile _ := rfl
  named _ changed := absurd rfl changed
  text _ changed := absurd rfl changed
  normal _ changed := absurd rfl changed

theorem Frame.trans (before : Frame tree first next) (behind : Frame next later after) :
    Frame tree (first ++ later) after := by
  refine ⟨?_, ?_, ?_, ?_, ?_⟩
  · exact fun path => (behind.locate? path).trans (before.locate? path)
  · exact fun location => (behind.isFile location).trans (before.isFile location)
  · intro location changed
    by_cases kept : next.entryAt? location = tree.entryAt? location
    · rcases behind.named location (kept ▸ changed) with ⟨violation, member, named⟩
      rw [before.locate?] at named
      exact ⟨violation, List.mem_append_right _ member, named⟩
    · rcases before.named location kept with ⟨violation, member, named⟩
      exact ⟨violation, List.mem_append_left _ member, named⟩
  · intro location changed
    by_cases kept : next.entryAt? location = tree.entryAt? location
    · rw [← kept]
      exact behind.text location (kept ▸ changed)
    · exact before.text location kept
  · intro location changed
    by_cases kept : after.entryAt? location = next.entryAt? location
    · rw [kept] at changed ⊢
      exact before.normal location changed
    · exact behind.normal location kept

theorem Frame.mono (frame : Frame tree first after)
    (more : ∀ violation ∈ first, violation ∈ violations) : Frame tree violations after :=
  { frame with
    named := fun location changed => by
      rcases frame.named location changed with ⟨violation, member, named⟩
      exact ⟨violation, more violation member, named⟩ }

/-- Applications stay within the frame of their violations. -/
theorem Applications.frame (applications : Applications tree violations after) :
    Frame tree violations after := by
  have keeps := applications.keeps keeps_nil
  rw [List.nil_append] at keeps
  have touched {location : Location} (changed : after.entryAt? location ≠ tree.entryAt? location) :
      tree.violationsAt violations location ≠ [] :=
    fun untouched => changed (keeps.untouched location untouched)
  refine ⟨keeps.locate?, ?_, ?_, ?_, ?_⟩
  · intro location
    by_cases changed : after.entryAt? location = tree.entryAt? location
    · rw [changed]
    · rcases keeps.touched location (touched changed) with ⟨_, _, _, there, _, _, _, now⟩
      rw [there, now]
      rfl
  · intro location changed
    rcases List.exists_mem_of_ne_nil _ (touched changed) with ⟨violation, member⟩
    rcases List.mem_filter.1 member with ⟨inside, named⟩
    exact ⟨violation, inside, by simpa using named⟩
  · intro location changed
    rcases keeps.touched location (touched changed) with ⟨bytes, lines, _, there, read, _⟩
    rcases Text.linesOfBytes_eq_ok_iff.1 read with ⟨chars, decoded, _⟩
    exact ⟨bytes, chars, there, decoded⟩
  · intro location changed
    rcases keeps.touched location (touched changed) with
      ⟨bytes, lines, counts, there, read, fits, sum, now⟩
    have each := Comment.isLine_withBlanks fits (Text.isLine_of_linesOfBytes read)
    -- a file of which all lines end in a line feed may be empty, one with an inserted line is not
    have filled : Comment.withBlanks lines counts ≠ [] := by
      intro none
      have length := Comment.length_withBlanks fits
      have applied := List.length_pos_iff.2 (touched changed)
      rw [none, List.length_nil] at length
      omega
    exact ⟨_, _, now, Text.Utf8.decode_encode _, Text.return_notMem_unlines each,
      Text.getLast?_unlines filled⟩

/-! ## Calls -/

/-- The violations that a run takes up: those of its log, if it can be scanned to its end. -/
def reported (tree : FileTree) (log : String) (matchers : List Matcher) : List Violation :=
  match (Log.scan tree (Path.normal log) matchers).fault with
  | some _ => []
  | none => (Log.scan tree (Path.normal log) matchers).violations

theorem mem_reported_of_applied {log : String} {matchers : List Matcher} {violation : Violation}
    (applied : violation ∈ (tree.run log matchers).events.filterMap Event.applied?) :
    violation ∈ tree.reported log matchers := by
  unfold reported
  cases scanned : (Log.scan tree (Path.normal log) matchers).fault with
  | some fault =>
    rw [run_of_fault scanned, filterMap_matched] at applied
    cases applied
  | none =>
    obtain ⟨done, front, _, events⟩ := applyAll_applications tree []
      (applicationOrder (Log.scan tree (Path.normal log) matchers).violations)
    rw [run_applied scanned, events] at applied
    exact List.mem_reverse.1 (front.subset applied)

end FileTree

/-- A call of the tool: one that only reads a log, a file of matchers or the lines of a file, one
    that repairs files, or a command. -/
inductive ToolCall where
  | scan (log : String) (matchers : List Matcher)
  | load (path : String) (includeBuiltin : Option Bool)
  | readLines (path : String)
  | repair (call : RepairCall)
  | command (words : List String)

namespace ToolCall

open FileTree

/-- The tree after a call, whether it succeeds or not. What only reads gives no tree. -/
def after (host : Host) (tree : FileTree) : ToolCall → FileTree
  | .scan _ _ => tree
  | .load _ _ => tree
  | .readLines _ => tree
  | .repair call => (tree.perform call).1
  | .command words => (CommandLine.command host tree words).tree

/-- The violations that a call takes up: the one that is to be applied, or those that the log of its
    run reports. A command whose words or matchers are at fault runs on nothing. -/
def violations (host : Host) (tree : FileTree) : ToolCall → List Violation
  | .scan _ _ => []
  | .load _ _ => []
  | .readLines _ => []
  | .repair (.apply violation) => [violation]
  | .repair (.run log matchers) => tree.reported log matchers
  | .command words =>
    match CommandLine.parse words with
    | .error _ => []
    | .ok options =>
      match options.chosen host tree with
      | .error _ => []
      | .ok matchers => tree.reported options.log matchers

theorem frame_run (tree : FileTree) (log : String) (matchers : List Matcher) :
    Frame tree (tree.reported log matchers) (tree.run log matchers).tree :=
  (run_applications tree log matchers).frame.mono fun _ => mem_reported_of_applied

theorem frame_command (host : Host) (tree : FileTree) (words : List String) :
    Frame tree (violations host tree (.command words))
      (CommandLine.command host tree words).tree := by
  rw [violations, CommandLine.command]
  cases CommandLine.parse words with
  | error stop => cases stop <;> exact frame_refl tree []
  | ok options =>
    dsimp only
    cases chosen : options.chosen host tree with
    | error fault =>
      rw [CommandLine.execute_of_error chosen]
      exact frame_refl tree []
    | ok matchers =>
      rw [CommandLine.execute_of_ok chosen]
      exact frame_run tree options.log matchers

/-- A call stays within the frame of the violations that it takes up. -/
theorem frame_after (host : Host) (tree : FileTree) (call : ToolCall) :
    Frame tree (call.violations host tree) (call.after host tree) := by
  cases call with
  | scan log matchers => exact frame_refl tree []
  | load path includeBuiltin => exact frame_refl tree []
  | readLines path => exact frame_refl tree []
  | repair call =>
    cases call with
    | apply violation =>
      -- a violation that cannot be applied is taken up, but nothing has been applied then
      refine (perform_applications tree (.apply violation)).frame.mono ?_
      intro applied member
      rw [FileTree.perform] at member
      split at member
      · exact member
      · cases member
    | run log matchers => exact frame_run tree log matchers
  | command words => exact frame_command host tree words

/-- A call that only reads. -/
def Reads : ToolCall → Prop
  | .scan _ _ => True
  | .load _ _ => True
  | .readLines _ => True
  | _ => False

end ToolCall

namespace FileTree

/-- The tree after calls, one after the other, and the violations that they took up. -/
def callAll (host : Host) (tree : FileTree) : List ToolCall → FileTree × List Violation
  | [] => (tree, [])
  | call :: calls =>
    let (after, later) := (call.after host tree).callAll host calls
    (after, call.violations host tree ++ later)

theorem frame_callAll (host : Host) (tree : FileTree) (calls : List ToolCall) :
    Frame tree (tree.callAll host calls).2 (tree.callAll host calls).1 := by
  induction calls generalizing tree with
  | nil => exact frame_refl tree []
  | cons call calls ih => exact (call.frame_after host tree).trans (ih _)

/-- No sequence of calls, whether they succeed or not, creates or removes anything or turns a file
    into a directory. The files that it changes are texts that the violations of its calls name, and
    afterwards texts in which every line ends in a line feed. The same holds of every single call
    in it with the violations of that call, and a call that only reads changes nothing. -/
theorem frame_of_calls (host : Host) (tree : FileTree) (calls : List ToolCall) :
    let reached := (tree.callAll host calls).1
    Frame tree (tree.callAll host calls).2 reached ∧
    ∀ call : ToolCall,
      Frame reached (call.violations host reached) (call.after host reached) ∧
      (call.Reads → call.after host reached = reached) := by
  dsimp only
  refine ⟨frame_callAll host tree calls, ?_⟩
  intro call
  refine ⟨call.frame_after host _, ?_⟩
  intro reads
  cases call with
  | scan | load | readLines => rfl
  | repair | command => exact reads.elim

/-- A command that repairs a file, a violation in a file that is not there, and a log that is no
    file of matchers. -/
def mixedCalls : List ToolCall :=
  [.command ["log", "--matchers", "config", "-v"], .repair (.apply ⟨"lost", 2, by decide⟩),
    .load "log" none]

theorem frame_of_calls_mixedCalls :
    (CommandLine.configured.callAll .ascii mixedCalls).1.entryAt? ["A"] =
      some (.file (Text.bytesOfLines [" * a", " *"])) ∧
    (∃ violation ∈ (CommandLine.configured.callAll .ascii mixedCalls).2,
      CommandLine.configured.locate? violation.path = some ["A"]) ∧
    (CommandLine.configured.callAll .ascii mixedCalls).1.entryAt? ["lost"] = none ∧
    ToolCall.after .ascii (CommandLine.configured.callAll .ascii mixedCalls).1 (.readLines "A") =
      (CommandLine.configured.callAll .ascii mixedCalls).1 := by
  rcases frame_of_calls .ascii CommandLine.configured mixedCalls with ⟨frame, each⟩
  have repaired : (CommandLine.configured.callAll .ascii mixedCalls).1.entryAt? ["A"] =
      some (.file (Text.bytesOfLines [" * a", " *"])) := by decide +kernel
  have changed : (CommandLine.configured.callAll .ascii mixedCalls).1.entryAt? ["A"] ≠
      CommandLine.configured.entryAt? ["A"] := by
    rw [repaired]
    decide
  exact ⟨repaired, frame.named ["A"] changed, Option.map_eq_none_iff.1 (frame.isFile ["lost"]),
    (each (.readLines "A")).2 trivial⟩

end FileTree

end JavadocRepair
