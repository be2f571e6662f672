import Mathlib
import JavadocRepair.Comment
import JavadocRepair.Proofs.Text.Lines

/-!
# Lines with blank lines below them

However often blank comment lines are put into a list of lines, what comes out is the lines that
were there at first, each with some copies of its blank line below it. This holds because the blank
line of a blank line is that line again.
-/

namespace JavadocRepair.Comment

/-! ## Blank lines -/

/-- The blank comment line that fits below a line, or the empty text if the line has no asterisk. -/
def blankOf (line : String) : String :=
  (blankLine line).toOption.getD ""

theorem blankLine_of_mem {line : String} (asterisk : '*' ∈ line.toList) :
    blankLine line = .ok (String.ofList (line.toList.takeWhile (· != '*') ++ ['*'])) := by
  simp [blankLine, throughAsterisk?, asterisk]

/-- A line has a blank line if and only if it has an asterisk. -/
theorem blankLine_eq_ok_iff {line blank : String} :
    blankLine line = .ok blank ↔ '*' ∈ line.toList ∧ blank = blankOf line := by
  by_cases asterisk : '*' ∈ line.toList
  · have written := blankLine_of_mem asterisk
    simp [blankOf, written, asterisk, Except.toOption, eq_comm]
  · simp [blankLine, throughAsterisk?, asterisk]

theorem toList_blankOf {line : String} (asterisk : '*' ∈ line.toList) :
    (blankOf line).toList = line.toList.takeWhile (· != '*') ++ ['*'] := by
  simp [blankOf, blankLine_of_mem asterisk, Except.toOption]

theorem mem_blankOf {line : String} (asterisk : '*' ∈ line.toList) :
    '*' ∈ (blankOf line).toList := by
  simp [toList_blankOf asterisk]

/-- The blank line of a blank line is that line again. -/
theorem blankOf_blankOf {line : String} (asterisk : '*' ∈ line.toList) :
    blankOf (blankOf line) = blankOf line := by
  apply String.toList_inj.1
  rw [toList_blankOf (mem_blankOf asterisk), toList_blankOf asterisk]
  simp [List.takeWhile_append, List.takeWhile_idem]

theorem isLine_blankOf {line : String} (asterisk : '*' ∈ line.toList)
    (isLine : Text.IsLine line.toList) : Text.IsLine (blankOf line).toList := by
  rw [toList_blankOf asterisk]
  have part := List.takeWhile_subset (l := line.toList) (· != '*')
  constructor
  · simpa using fun member => isLine.1 (part member)
  · simpa using fun member => isLine.2 (part member)

/-! ## Copies of blank lines -/

/-- Lines, each with a number of copies of its blank line below it. -/
def withBlanks (lines : List String) (counts : List Nat) : List String :=
  (lines.zip counts).flatMap fun (line, count) => line :: List.replicate count (blankOf line)

/-- There is a number of copies for every line, which is zero if the line has no blank line. -/
def Fits (lines : List String) (counts : List Nat) : Prop :=
  List.Forall₂ (fun line count => '*' ∉ line.toList → count = 0) lines counts

/-- The numbers of copies after one more copy is put behind the text with an index. -/
def bump : List Nat → Nat → List Nat
  | [], _ => []
  | count :: counts, index =>
    if index ≤ count then (count + 1) :: counts else count :: bump counts (index - (count + 1))

theorem withBlanks_cons (line : String) (lines : List String) (count : Nat) (counts : List Nat) :
    withBlanks (line :: lines) (count :: counts) =
      (line :: List.replicate count (blankOf line)) ++ withBlanks lines counts := by
  simp [withBlanks]

theorem length_withBlanks {lines : List String} {counts : List Nat} (fits : Fits lines counts) :
    (withBlanks lines counts).length = lines.length + counts.sum := by
  induction fits with
  | nil => rfl
  | @cons line count lines counts _ _ ih =>
    rw [withBlanks_cons, List.length_append, ih]
    simp
    omega

theorem isLine_withBlanks {lines : List String} {counts : List Nat} (fits : Fits lines counts)
    (each : ∀ text ∈ lines, Text.IsLine text.toList) :
    ∀ text ∈ withBlanks lines counts, Text.IsLine text.toList := by
  induction fits with
  | nil => simp [withBlanks]
  | @cons line count lines counts fit _ ih =>
    rcases List.forall_mem_cons.1 each with ⟨first, later⟩
    intro text member
    rw [withBlanks_cons, List.cons_append] at member
    rcases List.mem_cons.1 member with rfl | below
    · exact first
    · rcases List.mem_append.1 below with copy | other
      · rcases List.mem_replicate.1 copy with ⟨some, rfl⟩
        have asterisk : '*' ∈ line.toList := by
          by_contra none
          exact some (fit none)
        exact isLine_blankOf asterisk first
      · exact ih later text other

/-- A text that stands in the block of a line is that line or its blank line. -/
theorem blankOf_of_getElem? {line text : String} {count index : Nat}
    (fits : '*' ∉ line.toList → count = 0) (asterisk : '*' ∈ text.toList)
    (found : (line :: List.replicate count (blankOf line))[index]? = some text) :
    '*' ∈ line.toList ∧ blankOf text = blankOf line := by
  rcases List.mem_cons.1 (List.mem_of_getElem? found) with rfl | copy
  · exact ⟨asterisk, rfl⟩
  · rcases List.mem_replicate.1 copy with ⟨some, rfl⟩
    have starred : '*' ∈ line.toList := by
      by_contra none
      exact some (fits none)
    exact ⟨starred, blankOf_blankOf starred⟩

theorem insertIdx_append_left {xs ys : List String} {index : Nat} (text : String)
    (inside : index ≤ xs.length) :
    (xs ++ ys).insertIdx index text = xs.insertIdx index text ++ ys := by
  induction xs generalizing index with
  | nil =>
    obtain rfl : index = 0 := by simpa using inside
    simp
  | cons x xs ih =>
    cases index with
    | zero => rfl
    | succ index =>
      rw [List.cons_append, List.insertIdx_succ_cons, ih (by simpa using inside),
        List.insertIdx_succ_cons, List.cons_append]

theorem insertIdx_append_right (xs ys : List String) (index : Nat) (text : String) :
    (xs ++ ys).insertIdx (xs.length + index) text = xs ++ ys.insertIdx index text := by
  induction xs with
  | nil => simp
  | cons x xs ih =>
    rw [List.length_cons, Nat.add_right_comm, List.cons_append, List.insertIdx_succ_cons, ih,
      List.cons_append]

/-- One more blank line in the block of a line makes a block with one more copy. -/
theorem insertIdx_block {line : String} {count index : Nat} (inside : index ≤ count) :
    (line :: List.replicate count (blankOf line)).insertIdx (index + 1) (blankOf line) =
      line :: List.replicate (count + 1) (blankOf line) := by
  rw [List.insertIdx_succ_cons]
  congr 1
  apply List.eq_replicate_iff.2
  constructor
  · rw [List.length_insertIdx_of_le_length (by simpa using inside), List.length_replicate]
  · intro text member
    rcases List.eq_or_mem_of_mem_insertIdx member with rfl | copy
    · rfl
    · exact (List.mem_replicate.1 copy).2

/-- A blank line that is put behind a text with an asterisk is one more copy for the line in whose
    block that text stands. -/
theorem insertIdx_withBlanks {lines : List String} {counts : List Nat} {text : String}
    {index : Nat} (fits : Fits lines counts) (asterisk : '*' ∈ text.toList)
    (found : (withBlanks lines counts)[index]? = some text) :
    (withBlanks lines counts).insertIdx (index + 1) (blankOf text) =
        withBlanks lines (bump counts index) ∧
      Fits lines (bump counts index) ∧ (bump counts index).sum = counts.sum + 1 := by
  induction fits generalizing index with
  | nil => simp [withBlanks] at found
  | @cons line count lines counts fit fits ih =>
    rw [withBlanks_cons] at found ⊢
    have length : (line :: List.replicate count (blankOf line)).length = count + 1 := by simp
    -- the text stands in the block of the first line or in those of the others
    by_cases inside : index ≤ count
    · rw [List.getElem?_append_left (by omega)] at found
      rcases blankOf_of_getElem? fit asterisk found with ⟨starred, same⟩
      rw [bump, if_pos inside, same, insertIdx_append_left _ (by omega),
        insertIdx_block inside, withBlanks_cons]
      refine ⟨rfl, .cons (fun none => absurd starred none) fits, ?_⟩
      rw [List.sum_cons, List.sum_cons]
      omega
    · rw [List.getElem?_append_right (by omega), length] at found
      rcases ih found with ⟨inserted, fits, sum⟩
      rw [bump, if_neg inside, withBlanks_cons, ← inserted]
      refine ⟨?_, .cons fit fits, ?_⟩
      · rw [← insertIdx_append_right, length]
        congr 1
        omega
      · rw [List.sum_cons, List.sum_cons, sum]
        omega

/-! ## Blank lines in front of reported lines -/

theorem insertBlankLine_previous {lines patched : List String} {previous : Nat} :
    insertBlankLine lines (previous + 2) = .ok patched ↔
      ∃ line, lines[previous]? = some line ∧ '*' ∈ line.toList ∧
        patched = lines.insertIdx (previous + 1) (blankOf line) := by
  have above : ¬(previous + 2 : Int) < 2 := by omega
  have index : ((previous + 2 : Int) - 2).toNat = previous := by omega
  rw [insertBlankLine, if_neg above]
  simp only [index]
  cases lines[previous]? with
  | none => simp
  | some line =>
    cases blank : blankLine line with
    | error fault =>
      have noAsterisk : '*' ∉ line.toList := by
        intro asterisk
        rw [blankLine_eq_ok_iff.2 ⟨asterisk, rfl⟩] at blank
        cases blank
      simp [blank, noAsterisk]
    | ok text =>
      rcases blankLine_eq_ok_iff.1 blank with ⟨asterisk, rfl⟩
      simp [blank, asterisk, eq_comm]

/-- A blank line can be put in front of a line if and only if the line before it is there and has
    an asterisk. -/
theorem insertBlankLine_eq_ok_iff {lines patched : List String} {lineNumber : Int} :
    insertBlankLine lines lineNumber = .ok patched ↔
      ∃ (previous : Nat) (line : String), lineNumber = previous + 2 ∧
        lines[previous]? = some line ∧ '*' ∈ line.toList ∧
        patched = lines.insertIdx (previous + 1) (blankOf line) := by
  constructor
  · intro inserted
    have above : ¬lineNumber < 2 := by
      intro first
      rw [insertBlankLine, if_pos first] at inserted
      cases inserted
    obtain ⟨previous, rfl⟩ : ∃ previous : Nat, lineNumber = previous + 2 :=
      ⟨(lineNumber - 2).toNat, by omega⟩
    rcases insertBlankLine_previous.1 inserted with ⟨line, found, asterisk, patch⟩
    exact ⟨previous, line, rfl, found, asterisk, patch⟩
  · intro found
    rcases found with ⟨previous, line, rfl, found, asterisk, patch⟩
    exact insertBlankLine_previous.2 ⟨line, found, asterisk, patch⟩

theorem Fault.outside_eq_noPrecedingLine_iff {lineNumber : Int} (lineCount : Nat) :
    outside lineNumber lineCount = .noPrecedingLine lineNumber lineCount ↔
      lineNumber.natAbs < Number.tooLarge := by
  unfold outside
  split <;> simp_all

theorem Fault.outside_eq_numberTooLarge_iff {lineNumber : Int} (lineCount : Nat) :
    outside lineNumber lineCount = .numberTooLarge ↔ Number.tooLarge ≤ lineNumber.natAbs := by
  unfold outside
  split <;> simp_all

/-- The number of a line that has none before it is named, or it is too large to be. -/
theorem Fault.outside_cases (lineNumber lineCount : Nat) :
    (lineNumber < Number.tooLarge ∧
      outside lineNumber lineCount = .noPrecedingLine lineNumber lineCount) ∨
    (Number.tooLarge ≤ lineNumber ∧ outside lineNumber lineCount = .numberTooLarge) := by
  rcases Nat.lt_or_ge lineNumber Number.tooLarge with small | large
  · exact .inl ⟨small, (outside_eq_noPrecedingLine_iff lineCount).2 (by simpa using small)⟩
  · exact .inr ⟨large, (outside_eq_numberTooLarge_iff lineCount).2 (by simpa using large)⟩

theorem Fault.outside_ne_noAsterisk {lineNumber : Int} {lineCount : Nat} {line : String} :
    outside lineNumber lineCount ≠ .noAsterisk line := by
  unfold outside
  split <;> nofun

/-- What is wrong when no blank line can be put in front of a line: there is no line before it, or
    the line before it has no asterisk. -/
theorem insertBlankLine_eq_error_iff {lines : List String} {lineNumber : Int} {fault : Fault} :
    insertBlankLine lines lineNumber = .error fault ↔
      ((lineNumber < 2 ∨ lines.length + 1 < lineNumber) ∧
        fault = .outside lineNumber lines.length) ∨
      ∃ (previous : Nat) (line : String), lineNumber = previous + 2 ∧
        lines[previous]? = some line ∧ '*' ∉ line.toList ∧ fault = .noAsterisk line := by
  by_cases first : lineNumber < 2
  · have outside (previous : Nat) : lineNumber ≠ previous + 2 := by omega
    simp [insertBlankLine, first, outside, eq_comm]
  · obtain ⟨previous, rfl⟩ : ∃ previous : Nat, lineNumber = previous + 2 :=
      ⟨(lineNumber - 2).toNat, by omega⟩
    have index : ((previous + 2 : Int) - 2).toNat = previous := by omega
    have same (other : Nat) : ((previous : Int) + 2 = other + 2) ↔ previous = other := by omega
    rw [insertBlankLine, if_neg first]
    simp only [index, first, same, false_or, exists_and_left, ↓existsAndEq, true_and]
    cases found : lines[previous]? with
    | none =>
      have below := List.getElem?_eq_none_iff.1 found
      have outside : (lines.length : Int) + 1 < previous + 2 := by omega
      simp [outside, eq_comm]
    | some line =>
      have inside := (List.getElem?_eq_some_iff.1 found).1
      have within : ¬(lines.length : Int) + 1 < previous + 2 := by omega
      by_cases asterisk : '*' ∈ line.toList
      · simp [blankLine_of_mem asterisk, within, asterisk]
      · simp [blankLine, throughAsterisk?, within, asterisk, eq_comm]

/-- A number without a line before it may be too large to be named. -/
theorem insertBlankLine_of_tooLarge {lines : List String} {lineNumber : Int}
    (outside : lineNumber < 2 ∨ lines.length + 1 < lineNumber)
    (large : Number.tooLarge ≤ lineNumber.natAbs) :
    insertBlankLine lines lineNumber = .error .numberTooLarge := by
  have named := (Fault.outside_eq_numberTooLarge_iff lines.length).2 large
  exact insertBlankLine_eq_error_iff.2 (.inl ⟨outside, named.symm⟩)

theorem exists_insertBlankLine_iff {lines : List String} {lineNumber : Nat} :
    (∃ patched, insertBlankLine lines lineNumber = .ok patched) ↔
      2 ≤ lineNumber ∧ ∃ line, lines[lineNumber - 2]? = some line ∧ '*' ∈ line.toList := by
  constructor
  · intro success
    rcases success with ⟨patched, inserted⟩
    rcases insertBlankLine_eq_ok_iff.1 inserted with ⟨previous, line, number, found, asterisk, _⟩
    obtain rfl : lineNumber = previous + 2 := by omega
    exact ⟨by omega, line, found, asterisk⟩
  · intro possible
    rcases possible with ⟨least, line, found, asterisk⟩
    have number : (lineNumber : Int) = (lineNumber - 2 : Nat) + 2 := by omega
    exact ⟨_, insertBlankLine_eq_ok_iff.2
      ⟨lineNumber - 2, line, number, found, asterisk, rfl⟩⟩

theorem isLine_insertBlankLine {lines patched : List String} {lineNumber : Int}
    (each : ∀ text ∈ lines, Text.IsLine text.toList)
    (inserted : insertBlankLine lines lineNumber = .ok patched) :
    ∀ text ∈ patched, Text.IsLine text.toList := by
  rcases insertBlankLine_eq_ok_iff.1 inserted with ⟨previous, line, _, found, asterisk, rfl⟩
  intro text member
  rcases List.eq_or_mem_of_mem_insertIdx member with rfl | old
  · exact isLine_blankOf asterisk (each line (List.mem_of_getElem? found))
  · exact each text old

/-- Wherever a blank line is put into lines with blank lines below them, what comes out is those
    lines again, one of them with one more blank line. -/
theorem insertBlankLine_withBlanks {lines patched : List String} {counts : List Nat}
    {lineNumber : Int} (fits : Fits lines counts)
    (inserted : insertBlankLine (withBlanks lines counts) lineNumber = .ok patched) :
    ∃ more, Fits lines more ∧ more.sum = counts.sum + 1 ∧ patched = withBlanks lines more := by
  rcases insertBlankLine_eq_ok_iff.1 inserted with ⟨previous, line, _, found, asterisk, rfl⟩
  rcases insertIdx_withBlanks fits asterisk found with ⟨written, fits, sum⟩
  exact ⟨bump counts previous, fits, sum, written⟩

/-! ## Blank lines from the bottom up -/

theorem fits_zero (lines : List String) : Fits lines (List.replicate lines.length 0) := by
  induction lines with
  | nil => exact .nil
  | cons line lines ih => exact .cons (fun _ => rfl) ih

@[simp]
theorem withBlanks_zero (lines : List String) :
    withBlanks lines (List.replicate lines.length 0) = lines := by
  induction lines with
  | nil => rfl
  | cons line lines ih =>
    rw [List.length_cons, List.replicate_succ, withBlanks_cons, ih]
    rfl

/-- Lines that have no blank lines above them stand where they stood at first. -/
theorem getElem?_withBlanks {lines : List String} {counts : List Nat} {index : Nat}
    (fits : Fits lines counts) (zeros : ∀ count ∈ counts.take index, count = 0) :
    (withBlanks lines counts)[index]? = lines[index]? := by
  induction fits generalizing index with
  | nil => rfl
  | @cons line count lines counts _ _ ih =>
    cases index with
    | zero => simp [withBlanks_cons]
    | succ index =>
      rw [List.take_succ_cons, List.forall_mem_cons] at zeros
      rw [withBlanks_cons, zeros.1]
      exact ih zeros.2

/-- Behind a line that has no blank lines above it, one more copy is a copy for that line. -/
theorem bump_eq_modify {counts : List Nat} {index : Nat} (inside : index < counts.length)
    (zeros : ∀ count ∈ counts.take index, count = 0) :
    bump counts index = counts.modify index (· + 1) := by
  induction counts generalizing index with
  | nil => cases inside
  | cons count counts ih =>
    cases index with
    | zero => simp [bump]
    | succ index =>
      rw [List.take_succ_cons, List.forall_mem_cons] at zeros
      rcases zeros with ⟨rfl, zeros⟩
      rw [bump, if_neg (by omega), List.modify_succ_cons]
      simpa using ih (by simpa using inside) zeros

/-- If there are no blank lines above the line before the reported one, a blank line can be put in
    front of the reported line if and only if it could be put there at first. -/
theorem exists_insertBlankLine_withBlanks_iff {lines : List String} {counts : List Nat}
    {lineNumber : Nat} (fits : Fits lines counts)
    (zeros : ∀ count ∈ counts.take (lineNumber - 2), count = 0) :
    (∃ patched, insertBlankLine (withBlanks lines counts) lineNumber = .ok patched) ↔
      ∃ patched, insertBlankLine lines lineNumber = .ok patched := by
  rw [exists_insertBlankLine_iff, exists_insertBlankLine_iff, getElem?_withBlanks fits zeros]

/-- If there are no blank lines above the line before the reported one, a blank line in front of the
    reported line is one more copy for that line. -/
theorem insertBlankLine_withBlanks_bottomUp {lines patched : List String} {counts : List Nat}
    {lineNumber : Nat} (fits : Fits lines counts)
    (zeros : ∀ count ∈ counts.take (lineNumber - 2), count = 0)
    (edited : insertBlankLine (withBlanks lines counts) lineNumber = .ok patched) :
    2 ≤ lineNumber ∧ Fits lines (counts.modify (lineNumber - 2) (· + 1)) ∧
      patched = withBlanks lines (counts.modify (lineNumber - 2) (· + 1)) := by
  rcases insertBlankLine_eq_ok_iff.1 edited with ⟨previous, line, number, found, asterisk, rfl⟩
  obtain rfl : lineNumber = previous + 2 := by omega
  rw [Nat.add_sub_cancel] at zeros ⊢
  have inside : previous < counts.length := by
    rw [← fits.length_eq]
    exact (List.getElem?_eq_some_iff.1 ((getElem?_withBlanks fits zeros).symm.trans found)).1
  rcases insertIdx_withBlanks fits asterisk found with ⟨written, more, _⟩
  rw [bump_eq_modify inside zeros] at written more
  exact ⟨by omega, more, written⟩

end JavadocRepair.Comment
