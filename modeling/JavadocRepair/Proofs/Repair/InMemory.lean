import JavadocRepair.Failure
import JavadocRepair.Proofs.Repair.Application

/-!
# Fresh reads and one read

Every application of a violation reads its file anew and writes all of it. Applying violations of one
file in any order comes to the same as reading the file once and putting the blank lines into the
lines that were read: since what is written is read as it was, each new read gives the lines that the
edits so far have led to.
-/

namespace JavadocRepair

/-- What steps from a start have led to: the states that were reached, the start first, and the fault
    that ended the steps before all of them were made. -/
structure Course (σ φ : Type) where
  states : List σ
  fault : Option φ

/-- Makes steps one after the other until one of them fails. -/
def course {σ φ α : Type} (step : σ → α → Except φ σ) (start : σ) : List α → Course σ φ
  | [] => ⟨[start], none⟩
  | a :: rest =>
    match step start a with
    | .error fault => ⟨[start], some fault⟩
    | .ok next =>
      let later := course step next rest
      ⟨start :: later.states, later.fault⟩

/-- A course that ends early ends with the fault of one of its steps. -/
theorem exists_step_of_course {σ φ α : Type} {step : σ → α → Except φ σ} {start : σ}
    {steps : List α} {fault : φ} (ended : (course step start steps).fault = some fault) :
    ∃ a ∈ steps, ∃ state, step state a = .error fault := by
  induction steps generalizing start with
  | nil => cases ended
  | cons a rest ih =>
    simp only [course] at ended
    cases made : step start a with
    | error found =>
      rw [made] at ended
      cases ended
      exact ⟨a, List.mem_cons_self, start, made⟩
    | ok next =>
      rw [made] at ended
      rcases ih ended with ⟨later, member, state, failed⟩
      exact ⟨later, List.mem_cons_of_mem _ member, state, failed⟩

/-- The number of a line, counted from 1. -/
abbrev LineNumber := { n : Nat // 1 ≤ n }

/-- Puts a blank line in front of the line with a number into lines that are held in memory. -/
def Comment.insertAt (lines : List String) (number : LineNumber) :
    Except Comment.Fault (List String) :=
  insertBlankLine lines number.1

/-- An edit fails because there is no line before the one with the number, or no asterisk in it, or
    because the number is too large to be written. -/
theorem Comment.failureClass?_of_insertAt {lines : List String} {number : LineNumber}
    {fault : Comment.Fault} (refused : insertAt lines number = .error fault) :
    fault.failureClass? = some .noPrecedingLine ∨ fault.failureClass? = some .noAsterisk ∨
      fault.failureClass? = none ∧ Number.tooLarge ≤ number.1 := by
  rcases insertBlankLine_eq_error_iff.1 refused with ⟨_, rfl⟩ | ⟨_, line, _, _, _, rfl⟩
  · rcases Fault.outside_cases number.1 lines.length with ⟨_, named⟩ | ⟨large, named⟩
    · rw [named]
      exact .inl rfl
    · rw [named]
      exact .inr (.inr ⟨rfl, large⟩)
  · exact .inr (.inl rfl)

namespace FileTree

/-- Applies the violation in the line with a number to the file at a path. -/
def applyAt (path : String) (tree : FileTree) (number : LineNumber) : Except PatchFault FileTree :=
  (tree.apply ⟨path, number.1, number.2⟩).map (·.1)

variable {tree : FileTree} {path : String} {lines : List String} {number : LineNumber}

/-- A violation fails on its file if the edit of the lines that the file holds fails. -/
theorem applyAt_of_error {fault : Comment.Fault} (read : tree.readLines path = .ok lines)
    (refused : Comment.insertAt lines number = .error fault) :
    tree.applyAt path number = .error ⟨path, .edit fault⟩ := by
  have failed : tree.apply ⟨path, number.1, number.2⟩ = .error ⟨path, .edit fault⟩ :=
    apply_of_error read refused
  simp [applyAt, failed, Except.map]

/-- A violation is applied if the edit of the lines that the file holds succeeds. The file then holds
    the edited lines, as they are written. -/
theorem exists_applyAt_of_ok {patched : List String} (read : tree.readLines path = .ok lines)
    (inserted : Comment.insertAt lines number = .ok patched) :
    ∃ after, tree.applyAt path number = .ok after ∧ after.readLines path = .ok patched ∧
      after.read path = .ok (Text.bytesOfLines patched) := by
  rcases readLines_eq_ok_iff.1 read with ⟨location, named, found⟩
  rcases linesAt?_eq_some_iff.1 found with ⟨bytes, there, decoded⟩
  let violation : Violation := ⟨path, number.1, number.2⟩
  have edited : Comment.insertBlankLine lines violation.lineNumber = .ok patched := inserted
  rcases apply_of_ok (show tree.locate? violation.path = some location from named) found edited
    with ⟨line, _, applied⟩
  have readable : (tree.setFile location (Text.bytesOfLines patched)).read path =
      .ok (Text.bytesOfLines patched) := by
    refine read_eq_ok_iff.2 ⟨location, ?_, ?_⟩
    · rw [locate?_setFile there, named]
    · rw [entryAt?_setFile there, if_pos rfl]
  have each := Comment.isLine_insertBlankLine (Text.isLine_of_linesOfBytes decoded) inserted
  refine ⟨_, by rw [applyAt, applied]; rfl, ?_, readable⟩
  simp [readLines, readable, Text.linesOfBytes_bytesOfLines each]

/-- The tree `reached` holds the lines `current` at a path, in the bytes that are written for them
    unless these are the bytes that the path gave at first. -/
structure HoldsLines (path : String) (first : Option (List UInt8)) (reached : FileTree)
    (current : List String) : Prop where
  lines : reached.readLines path = .ok current
  bytes : reached.read path = .ok (first.getD (Text.bytesOfLines current))

/-- Edits on disk and edits in memory reach states that belong together, one by one, and end with
    the same fault. -/
theorem course_applyAt (numbers : List LineNumber) {first : Option (List UInt8)}
    (start : HoldsLines path first tree lines) :
    let onDisk := course (applyAt path) tree numbers
    let inMemory := course Comment.insertAt lines numbers
    onDisk.fault = inMemory.fault.map (fun fault => ⟨path, .edit fault⟩) ∧
    ∃ trees edits, onDisk.states = tree :: trees ∧ inMemory.states = lines :: edits ∧
      List.Forall₂ (HoldsLines path none) trees edits := by
  induction numbers generalizing tree lines first with
  | nil => exact ⟨rfl, [], [], rfl, rfl, .nil⟩
  | cons number numbers ih =>
    simp only [course]
    cases edited : Comment.insertAt lines number with
    | error fault =>
      rw [applyAt_of_error start.lines edited]
      exact ⟨rfl, [], [], rfl, rfl, .nil⟩
    | ok patched =>
      rcases exists_applyAt_of_ok start.lines edited with ⟨after, applied, read, readable⟩
      have next : HoldsLines path none after patched := ⟨read, readable⟩
      rcases ih next with ⟨fault, trees, edits, onDisk, inMemory, together⟩
      rw [applied]
      exact ⟨fault, _, _, rfl, rfl, by rw [onDisk, inMemory]; exact .cons next together⟩

/-- Applying violations to a text file one after the other, in any order, comes to the same as
    reading the file once and putting the blank lines into its lines in memory. Both fail at the same
    violation, if at all, and for the same reason: there is no line before the reported one or no
    asterisk in it, as long as no number is too large to be written. After any number of successful
    steps the file has the lines that the edits in memory have led to; its bytes are those that are
    written for these lines, or those it had at first if there was no step yet. -/
theorem course_applyAt_eq_course_insertAt {bytes : List UInt8} {chars : List Char}
    (readable : tree.read path = .ok bytes) (decoded : Text.Utf8.decode bytes = .ok chars)
    (numbers : List LineNumber) :
    ∃ lines, tree.readLines path = .ok lines ∧
      let onDisk := course (applyAt path) tree numbers
      let inMemory := course Comment.insertAt lines numbers
      onDisk.fault = inMemory.fault.map (fun fault => ⟨path, .edit fault⟩) ∧
      (∀ fault, inMemory.fault = some fault →
        fault.failureClass? = some .noPrecedingLine ∨ fault.failureClass? = some .noAsterisk ∨
          fault.failureClass? = none ∧ ∃ number ∈ numbers, Number.tooLarge ≤ number.1) ∧
      onDisk.states.length = inMemory.states.length ∧
      ∀ (count : Nat) (reached : FileTree) (current : List String),
        onDisk.states[count]? = some reached → inMemory.states[count]? = some current →
        reached.readLines path = .ok current ∧
        reached.read path = .ok (if count = 0 then bytes else Text.bytesOfLines current) := by
  have read : tree.readLines path = .ok (Text.lines chars) := by
    simp [readLines, readable, Text.linesOfBytes, decoded]
  have start : HoldsLines path (some bytes) tree (Text.lines chars) := ⟨read, readable⟩
  rcases course_applyAt numbers start with ⟨fault, trees, edits, onDisk, inMemory, together⟩
  refine ⟨Text.lines chars, read, fault, ?_, by simp [onDisk, inMemory, together.length_eq], ?_⟩
  · intro fault ended
    rcases exists_step_of_course ended with ⟨number, member, state, refused⟩
    rcases Comment.failureClass?_of_insertAt refused with outside | bare | ⟨none, large⟩
    · exact .inl outside
    · exact .inr (.inl bare)
    · exact .inr (.inr ⟨none, number, member, large⟩)
  intro count reached current there there'
  rw [onDisk] at there
  rw [inMemory] at there'
  cases count with
  | zero =>
    cases there
    cases there'
    exact ⟨read, readable⟩
  | succ count =>
    rw [List.getElem?_cons_succ, List.getElem?_eq_some_iff] at there there'
    rcases there with ⟨inside, rfl⟩
    rcases there' with ⟨inside', rfl⟩
    have holds := together.get inside inside'
    exact ⟨holds.lines, holds.bytes⟩

/-- A file whose line ends are made line feeds by the first application. -/
def returnsFile : FileTree where
  entries := [(["A"], .file [0x2a, 0x0d, 0x0a, 0x78])]
  workingDirectory := []

/-- The third violation is reported behind a line without an asterisk. -/
theorem course_applyAt_eq_course_insertAt_returnsFile :
    let numbers : List LineNumber := [⟨2, by decide⟩, ⟨3, by decide⟩, ⟨5, by decide⟩]
    let onDisk := course (applyAt "A") returnsFile numbers
    Text.Utf8.decode [0x2a, 0x0d, 0x0a, 0x78] = .ok "*\r\nx".toList ∧
    onDisk.fault = some ⟨"A", .edit (.noAsterisk "x")⟩ ∧ onDisk.states.length = 3 ∧
    ∀ reached, onDisk.states[2]? = some reached →
      reached.readLines "A" = .ok ["*", "*", "*", "x"] := by
  intro numbers onDisk
  have decoded : Text.Utf8.decode [0x2a, 0x0d, 0x0a, 0x78] = .ok "*\r\nx".toList := rfl
  have readable : returnsFile.read "A" = .ok [0x2a, 0x0d, 0x0a, 0x78] := rfl
  rcases course_applyAt_eq_course_insertAt readable decoded numbers with
    ⟨lines, read, fault, _, length, states⟩
  obtain rfl : lines = ["*", "x"] := (Except.ok.inj read).symm
  refine ⟨decoded, fault, length, ?_⟩
  intro reached there
  exact (states 2 reached _ there rfl).1

/-- Not every edit fails for the lack of a line or of an asterisk. -/
theorem exists_course_numberTooLarge :
    ¬∀ (tree : FileTree) (path : String) (bytes : List UInt8) (chars : List Char)
        (numbers : List LineNumber) (fault : Comment.Fault),
      tree.read path = .ok bytes → Text.Utf8.decode bytes = .ok chars →
      (course (applyAt path) tree numbers).fault = some ⟨path, .edit fault⟩ →
      fault.failureClass? = some .noPrecedingLine ∨ fault.failureClass? = some .noAsterisk := by
  intro classified
  have wide : 3 < Number.tooLarge := by decide +kernel
  -- The number stays a variable: nothing here depends on its digits.
  obtain ⟨number, large⟩ : ∃ number : LineNumber, Number.tooLarge ≤ number.1 :=
    ⟨⟨Number.tooLarge, Nat.one_le_of_lt wide⟩, Nat.le_refl _⟩
  have read : returnsFile.readLines "A" = .ok ["*", "x"] := rfl
  have refused : Comment.insertAt ["*", "x"] number = .error .numberTooLarge := by
    have outside : (2 : Int) + 1 < number.1 := by omega
    exact Comment.insertBlankLine_of_tooLarge (.inr outside) (by simpa using large)
  have ended : (course (applyAt "A") returnsFile [number]).fault =
      some ⟨"A", .edit .numberTooLarge⟩ := by
    simp only [course, applyAt_of_error read refused]
  rcases classified returnsFile "A" _ "*\r\nx".toList [number] _ rfl rfl ended with
    outside | bare
  · cases outside
  · cases bare

end FileTree

end JavadocRepair
