import JavadocRepair.Proofs.Comment
import JavadocRepair.Repair

/-!
# Insertions into lines

A blank line that is put in front of a reported line is cut out of the line before it, and taking it
away again leaves the lines that were there. Two insertions may change places if the number of the
lower one is corrected by one. So insertions from the last number to the first come to the same as
insertions from the first to the last, where each number is corrected by the insertions made so far.
-/

namespace JavadocRepair.Comment

variable {lines patched : List String} {line blank : String}

/-! ## One insertion -/

/-- A text is the beginning of a line that ends in an asterisk and has no other. -/
def CutAtAsterisk (line blank : String) : Prop :=
  blank.toList <+: line.toList ∧ ∃ front, blank.toList = front ++ ['*'] ∧ '*' ∉ front

theorem cutAtAsterisk_iff (asterisk : '*' ∈ line.toList) :
    CutAtAsterisk line blank ↔ blank = blankOf line := by
  have written (front rest : List Char) (split : line.toList = front ++ '*' :: rest)
      (bare : '*' ∉ front) : (blankOf line).toList = front ++ ['*'] := by
    have clear : ∀ c ∈ front, (c != '*') = true := by
      intro c member
      exact bne_iff_ne.2 fun same => bare (same ▸ member)
    rw [toList_blankOf asterisk, split, List.takeWhile_append_of_pos clear]
    simp
  constructor
  · rintro ⟨⟨rest, split⟩, front, cut, bare⟩
    have line : line.toList = front ++ '*' :: rest := by
      rw [← split, cut, List.append_assoc, List.singleton_append]
    exact String.toList_inj.1 (cut.trans (written front rest line bare).symm)
  · rintro rfl
    obtain ⟨front, rest, split, bare⟩ := List.eq_append_cons_of_mem asterisk
    have cut := written front rest split bare
    exact ⟨⟨rest, by simp [cut, split]⟩, front, cut, bare⟩

/-- The same text put in twice, once in front of itself and once behind. -/
theorem insertIdx_insertIdx_self (blank : String) {index : Nat} (inside : index ≤ lines.length) :
    (lines.insertIdx index blank).insertIdx index blank =
        lines.take index ++ blank :: blank :: lines.drop index ∧
      (lines.insertIdx index blank).insertIdx (index + 1) blank =
        lines.take index ++ blank :: blank :: lines.drop index := by
  have once (others : List String) :
      (lines.take index ++ others).insertIdx index blank = lines.take index ++ blank :: others := by
    have length : (lines.take index).length = index := by simp [inside]
    simpa [length] using insertIdx_append_right (lines.take index) others 0 blank
  have first : lines.insertIdx index blank = lines.take index ++ blank :: lines.drop index := by
    simpa using once (lines.drop index)
  rw [List.insertIdx_comm blank blank (Nat.le_refl index) inside, first, once]
  exact ⟨rfl, rfl⟩

/-- What comes of putting the blank line of a line in front of the line with the number behind it.
    The blank line is that line up to its first asterisk, and stands between the lines that were
    there before. Put in once more, above or below itself, it stands there twice. -/
structure Inserted (lines : List String) (lineNumber : Int) (line : String)
    (patched : List String) (blank : String) : Prop where
  length : patched.length = lines.length + 1
  shown : patched[(lineNumber - 1).toNat]? = some blank
  cut : ∀ text, CutAtAsterisk line text ↔ text = blank
  erased : patched.eraseIdx (lineNumber - 1).toNat = lines
  fixed : blankLine blank = .ok blank
  doubled : ∀ again, again = lineNumber ∨ again = lineNumber + 1 →
    insertBlankLine patched again =
      .ok (lines.take (lineNumber - 1).toNat ++
        blank :: blank :: lines.drop (lineNumber - 1).toNat)

theorem inserted_insertIdx {previous : Nat} (found : lines[previous]? = some line)
    (asterisk : '*' ∈ line.toList) :
    Inserted lines (previous + 2) line (lines.insertIdx (previous + 1) (blankOf line))
      (blankOf line) := by
  have inside : previous + 1 ≤ lines.length := (List.getElem?_eq_some_iff.1 found).1
  have starred := mem_blankOf asterisk
  have shown : (lines.insertIdx (previous + 1) (blankOf line))[previous + 1]? =
      some (blankOf line) := by
    rw [List.getElem?_insertIdx_self, if_pos inside]
  obtain ⟨above, below⟩ := insertIdx_insertIdx_self (blankOf line) inside
  have index : ((previous + 2 : Int) - 1).toNat = previous + 1 := by omega
  refine ⟨List.length_insertIdx_of_le_length inside _, ?_, fun text => cutAtAsterisk_iff asterisk,
    ?_, blankLine_eq_ok_iff.2 ⟨starred, (blankOf_blankOf asterisk).symm⟩, ?_⟩
  · rw [index, shown]
  · rw [index, List.eraseIdx_insertIdx_self]
  · intro again either
    rw [index]
    rcases either with rfl | rfl
    -- above itself the blank line is cut out of the line again, below itself out of itself
    · rw [← above]
      refine insertBlankLine_previous.2 ⟨line, ?_, asterisk, rfl⟩
      rw [List.getElem?_insertIdx_of_lt (Nat.lt_succ_self previous), found]
    · rw [← below]
      refine insertBlankLine_eq_ok_iff.2
        ⟨previous + 1, blankOf line, by omega, shown, starred, ?_⟩
      rw [blankOf_blankOf asterisk]

/-- There are three outcomes for every number. There is no line before the one with the number,
    which is looked at first; that line has no asterisk; or its blank line is inserted. The number
    just above that of the last line is in order. Only for a number that is too large to be written
    the lack of a line before it is not reported as such. -/
theorem insertBlankLine_outcome (lines : List String) (lineNumber : Int) :
    (insertBlankLine lines lineNumber = .error (.noPrecedingLine lineNumber lines.length) ↔
      (lineNumber < 2 ∨ lines.length + 1 < lineNumber) ∧ lineNumber.natAbs < Number.tooLarge) ∧
    (insertBlankLine lines lineNumber = .error .numberTooLarge ↔
      (lineNumber < 2 ∨ lines.length + 1 < lineNumber) ∧ Number.tooLarge ≤ lineNumber.natAbs) ∧
    (2 ≤ lineNumber → lineNumber ≤ lines.length + 1 → ∃ line,
      lines[(lineNumber - 2).toNat]? = some line ∧
      (insertBlankLine lines lineNumber = .error (.noAsterisk line) ↔ '*' ∉ line.toList) ∧
      ('*' ∈ line.toList → ∃ patched blank, insertBlankLine lines lineNumber = .ok patched ∧
        Inserted lines lineNumber line patched blank)) := by
  refine ⟨?_, ?_, ?_⟩
  · rw [insertBlankLine_eq_error_iff, ← Fault.outside_eq_noPrecedingLine_iff lines.length]
    simp [eq_comm]
  · rw [insertBlankLine_eq_error_iff, ← Fault.outside_eq_numberTooLarge_iff lines.length]
    simp [eq_comm]
  · intro least most
    obtain ⟨previous, rfl⟩ : ∃ previous : Nat, lineNumber = previous + 2 :=
      ⟨(lineNumber - 2).toNat, by omega⟩
    have index : ((previous + 2 : Int) - 2).toNat = previous := by omega
    have inside : previous < lines.length := by omega
    have found : lines[previous]? = some lines[previous] := List.getElem?_eq_getElem inside
    refine ⟨lines[previous], by rw [index, found], ?_, ?_⟩
    · have same (other : Nat) : ((previous : Int) + 2 = other + 2) ↔ previous = other := by omega
      rw [insertBlankLine_eq_error_iff]
      simp [same, found, Fault.outside_ne_noAsterisk.symm]
    · intro asterisk
      exact ⟨_, _, insertBlankLine_previous.2 ⟨_, found, asterisk, rfl⟩,
        inserted_insertIdx found asterisk⟩

/-- A line with two asterisks behind one without any. -/
theorem insertBlankLine_outcome_twoLines :
    insertBlankLine ["a", " *b*"] 1 = .error (.noPrecedingLine 1 2) ∧
    insertBlankLine ["a", " *b*"] (2 ^ 64) = .error (.noPrecedingLine (2 ^ 64) 2) ∧
    insertBlankLine ["a", " *b*"] 2 = .error (.noAsterisk "a") ∧
    ∃ patched, insertBlankLine ["a", " *b*"] 3 = .ok patched ∧
      Inserted ["a", " *b*"] 3 " *b*" patched " *" ∧
      insertBlankLine patched 4 = .ok ["a", " *b*", " *", " *"] := by
  obtain ⟨outside, _⟩ := insertBlankLine_outcome ["a", " *b*"] 1
  obtain ⟨beyond, _⟩ := insertBlankLine_outcome ["a", " *b*"] (2 ^ 64)
  obtain ⟨first, found, bare, _⟩ :=
    (insertBlankLine_outcome ["a", " *b*"] 2).2.2 (by decide) (by decide)
  obtain ⟨second, found', _, success⟩ :=
    (insertBlankLine_outcome ["a", " *b*"] 3).2.2 (by decide) (by decide)
  obtain rfl : first = "a" := (Option.some.inj found).symm
  obtain rfl : second = " *b*" := (Option.some.inj found').symm
  obtain ⟨patched, blank, edited, inserted⟩ := success (by decide)
  obtain rfl : " *" = blank := (inserted.cut " *").1 ⟨⟨['b', '*'], rfl⟩, [' '], rfl, by decide⟩
  exact ⟨outside.2 (by decide +kernel), beyond.2 (by decide +kernel), bare.2 (by decide), patched,
    edited, inserted, inserted.doubled 4 (.inr rfl)⟩

/-- Not every number without a line before it is reported as such. -/
theorem exists_insertBlankLine_numberTooLarge :
    ¬∀ (lines : List String) (lineNumber : Int),
      insertBlankLine lines lineNumber = .error (.noPrecedingLine lineNumber lines.length) ↔
        lineNumber < 2 ∨ lines.length + 1 < lineNumber := by
  intro reported
  have outside : (0 : Int) + 1 < Number.tooLarge := by decide +kernel
  have refused : insertBlankLine [] Number.tooLarge = .error .numberTooLarge :=
    insertBlankLine_of_tooLarge (.inr outside) (Nat.le_refl _)
  cases refused.symm.trans ((reported [] Number.tooLarge).2 (.inr outside))

/-! ## Two insertions -/

/-- The blank line that fits below the line with an index, counted from 0. -/
def blankBelow? (lines : List String) (index : Nat) : Option String :=
  lines[index]?.bind fun line => (blankLine line).toOption

/-- The lines that an insertion leads to, if it succeeds. -/
def edit? (lines : List String) (lineNumber : Int) : Option (List String) :=
  (insertBlankLine lines lineNumber).toOption

theorem toOption_eq_some_iff {ε α : Type} {outcome : Except ε α} {a : α} :
    outcome.toOption = some a ↔ outcome = .ok a := by
  cases outcome <;> simp [Except.toOption]

theorem blankBelow?_eq_some_iff {index : Nat} :
    blankBelow? lines index = some blank ↔
      ∃ line, lines[index]? = some line ∧ '*' ∈ line.toList ∧ blank = blankOf line := by
  simp only [blankBelow?, Option.bind_eq_some_iff, toOption_eq_some_iff, blankLine_eq_ok_iff]

theorem edit?_of_lt_two {lineNumber : Int} (first : lineNumber < 2) :
    edit? lines lineNumber = none := by
  rw [edit?, insertBlankLine, if_pos first]
  rfl

theorem edit?_previous (lines : List String) (previous : Nat) :
    edit? lines (previous + 2) =
      (blankBelow? lines previous).map (lines.insertIdx (previous + 1)) := by
  ext patched
  rw [edit?, toOption_eq_some_iff, insertBlankLine_previous]
  simp only [Option.map_eq_some_iff, blankBelow?_eq_some_iff]
  grind

/-- An insertion further down leaves the lines above it alone. -/
theorem blankBelow?_above {index place : Nat} (order : index ≤ place) :
    blankBelow? (lines.insertIdx (place + 1) blank) index = blankBelow? lines index := by
  rw [blankBelow?, List.getElem?_insertIdx_of_lt (Nat.lt_succ_of_le order), blankBelow?]

/-- An insertion further up moves the lines below it down by one. The line right below it is then
    the inserted one, which has the same blank line as the line that it was cut out of. -/
theorem blankBelow?_below {index place : Nat} (order : index ≤ place)
    (inserted : blankBelow? lines index = some blank) :
    blankBelow? (lines.insertIdx (index + 1) blank) (place + 1) = blankBelow? lines place := by
  obtain ⟨line, found, asterisk, rfl⟩ := blankBelow?_eq_some_iff.1 inserted
  rcases Nat.eq_or_lt_of_le order with rfl | below
  · have inside : index + 1 ≤ lines.length := (List.getElem?_eq_some_iff.1 found).1
    rw [inserted, blankBelow?_eq_some_iff]
    exact ⟨blankOf line, by rw [List.getElem?_insertIdx_self, if_pos inside],
      mem_blankOf asterisk, (blankOf_blankOf asterisk).symm⟩
  · have moved : index + 1 < place + 1 := by omega
    rw [blankBelow?, List.getElem?_insertIdx_of_gt moved, Nat.add_sub_cancel, blankBelow?]

/-- What can be edited after an insertion further up is what could be edited before. -/
theorem isSome_edit?_succ {first second : Int} (order : first ≤ second)
    (edited : edit? lines first = some patched) :
    (edit? patched (second + 1)).isSome = (edit? lines second).isSome := by
  have least : 2 ≤ first := by
    by_contra small
    rw [edit?_of_lt_two (by omega)] at edited
    cases edited
  obtain ⟨upper, rfl⟩ : ∃ upper : Nat, first = upper + 2 := ⟨(first - 2).toNat, by omega⟩
  obtain ⟨lower, rfl⟩ : ∃ lower : Nat, second = lower + 2 := ⟨(second - 2).toNat, by omega⟩
  rw [edit?_previous] at edited
  obtain ⟨blank, inserted, rfl⟩ := Option.map_eq_some_iff.1 edited
  have next : (lower + 2 + 1 : Int) = (lower + 1 : Nat) + 2 := by omega
  rw [next, edit?_previous, edit?_previous, Option.isSome_map, Option.isSome_map,
    blankBelow?_below (by omega) inserted]

/-- The insertion with the greater number may come first, and if it comes second its number is
    greater by one. -/
theorem edit?_comm (lines : List String) {first second : Int} (order : first ≤ second) :
    (edit? lines second).bind (edit? · first) =
      (edit? lines first).bind (edit? · (second + 1)) := by
  by_cases small : first < 2
  · have never : (edit? · first) = fun _ : List String => none := by
      funext others
      exact edit?_of_lt_two small
    rw [never, edit?_of_lt_two small, Option.bind_fun_none, Option.bind_none]
  · obtain ⟨upper, rfl⟩ : ∃ upper : Nat, first = upper + 2 := ⟨(first - 2).toNat, by omega⟩
    obtain ⟨lower, rfl⟩ : ∃ lower : Nat, second = lower + 2 := ⟨(second - 2).toNat, by omega⟩
    have above : upper ≤ lower := by omega
    have next : (lower + 2 + 1 : Int) = (lower + 1 : Nat) + 2 := by omega
    simp only [next, edit?_previous]
    cases high : blankBelow? lines upper with
    | none =>
      cases low : blankBelow? lines lower with
      | none => rfl
      | some blank => simp [blankBelow?_above above, high]
    | some upperBlank =>
      cases low : blankBelow? lines lower with
      | none => simp [blankBelow?_below above high, low]
      | some lowerBlank =>
        obtain ⟨line, found, _⟩ := blankBelow?_eq_some_iff.1 low
        have inside : lower + 1 ≤ lines.length := (List.getElem?_eq_some_iff.1 found).1
        simp [blankBelow?_above above, blankBelow?_below above high, high, low,
          List.insertIdx_comm upperBlank lowerBlank (Nat.succ_le_succ above) inside]

/-! ## Many insertions -/

theorem toOption_foldlM (numbers : List Int) (lines : List String) :
    (numbers.foldlM insertBlankLine lines).toOption = numbers.foldlM edit? lines := by
  induction numbers generalizing lines with
  | nil => rfl
  | cons number numbers ih =>
    rw [List.foldlM_cons, List.foldlM_cons, edit?]
    cases insertBlankLine lines number with
    | error fault => rfl
    | ok patched => exact ih patched

/-- Insertions in front of the lines with some numbers, from the last number to the first. -/
def editUpward? (numbers : List Int) (lines : List String) : Option (List String) :=
  numbers.foldrM (fun number lines => edit? lines number) lines

theorem editUpward?_cons (number : Int) (numbers : List Int) (lines : List String) :
    editUpward? (number :: numbers) lines =
      (editUpward? numbers lines).bind (edit? · number) :=
  List.foldrM_cons

/-- The insertion with the least number may come last or first. If it comes first, the numbers of
    all others are greater by one. -/
theorem editUpward?_comm {number : Int} {numbers : List Int} (lines : List String)
    (least : ∀ other ∈ numbers, number ≤ other) :
    (editUpward? numbers lines).bind (edit? · number) =
      (edit? lines number).bind (editUpward? (numbers.map (· + 1))) := by
  induction numbers with
  | nil => cases made : edit? lines number <;> simp [editUpward?, made]
  | cons other numbers ih =>
    obtain ⟨first, later⟩ := List.forall_mem_cons.1 least
    calc (editUpward? (other :: numbers) lines).bind (edit? · number)
      _ = (editUpward? numbers lines).bind
            fun reached => (edit? reached other).bind (edit? · number) := by
          rw [editUpward?_cons, Option.bind_assoc]
      _ = (editUpward? numbers lines).bind
            fun reached => (edit? reached number).bind (edit? · (other + 1)) := by
          simp only [edit?_comm _ first]
      _ = (edit? lines number).bind
            fun reached => (editUpward? (numbers.map (· + 1)) reached).bind
              (edit? · (other + 1)) := by
          rw [← Option.bind_assoc, ih later, Option.bind_assoc]
      _ = (edit? lines number).bind (editUpward? ((other :: numbers).map (· + 1))) := by
          simp only [List.map_cons, editUpward?_cons]

/-- Going upward comes to the same as going downward, where each number is corrected by the number
    of insertions made before. -/
theorem editUpward?_eq_foldlM {numbers : List Int} (sorted : numbers.Pairwise (· ≤ ·)) (made : Nat)
    (lines : List String) :
    editUpward? (numbers.map (· + (made : Int))) lines =
      (numbers.mapIdx fun index number => number + ((index + made : Nat) : Int)).foldlM edit?
        lines := by
  induction sorted generalizing made lines with
  | nil => rfl
  | @cons number numbers least _ ih =>
    have least' : ∀ other ∈ numbers.map (· + (made : Int)), number + made ≤ other := by
      simpa using least
    have corrected : (numbers.map (· + (made : Int))).map (· + 1) =
        numbers.map (· + ((made + 1 : Nat) : Int)) := by
      simp
    have shifted : (fun index number => number + ((index + 1 + made : Nat) : Int)) =
        fun index number => number + ((index + (made + 1) : Nat) : Int) := by
      funext index number
      omega
    rw [List.map_cons, editUpward?_cons, editUpward?_comm lines least', corrected, List.mapIdx_cons,
      shifted, List.foldlM_cons, Nat.zero_add]
    congr 1
    funext reached
    exact ih (made + 1) reached

/-- Going upward succeeds if and only if every insertion succeeds by itself. -/
theorem isSome_editUpward?_iff {numbers : List Int} (sorted : numbers.Pairwise (· ≤ ·)) (made : Int)
    (lines : List String) :
    (editUpward? (numbers.map (· + made)) lines).isSome ↔
      ∀ number ∈ numbers, (edit? lines (number + made)).isSome := by
  induction sorted generalizing made lines with
  | nil => simp [editUpward?]
  | @cons number numbers least _ ih =>
    have least' : ∀ other ∈ numbers.map (· + made), number + made ≤ other := by
      simpa using least
    have corrected : (numbers.map (· + made)).map (· + 1) = numbers.map (· + (made + 1)) := by
      simp
    rw [List.map_cons, editUpward?_cons, editUpward?_comm lines least', corrected,
      List.forall_mem_cons]
    cases edited : edit? lines (number + made) with
    | none => simp
    | some reached =>
      rw [Option.bind_some, ih]
      simp only [Option.isSome_some, true_and]
      refine forall₂_congr fun other member => ?_
      rw [← Int.add_assoc, isSome_edit?_succ (by simpa using least other member) edited]

/-- Insertions from the last of some sorted numbers to the first, which is the order in which
    violations are applied, come to the same as insertions from the first to the last, each
    corrected by the insertions made before. Numbers may be repeated. Both succeed if and only if
    every insertion would succeed by itself, and then with the same lines. -/
theorem foldlM_reverse_iff_corrected {numbers : List Int} (sorted : numbers.Pairwise (· ≤ ·))
    (lines : List String) :
    let upward := numbers.reverse.foldlM insertBlankLine lines
    let downward :=
      (numbers.mapIdx fun made number => number + (made : Int)).foldlM insertBlankLine lines
    ((∃ result, upward = .ok result) ↔ ∃ result, downward = .ok result) ∧
    ((∃ result, upward = .ok result) ↔
      ∀ number ∈ numbers, ∃ patched, insertBlankLine lines number = .ok patched) ∧
    (∀ result, upward = .ok result ↔ downward = .ok result) ∧
    ∀ violations : List Violation,
      violations.map (fun violation => (violation.lineNumber : Int)) = numbers →
      (applicationOrder violations).foldlM
        (fun lines violation => insertBlankLine lines violation.lineNumber) lines = upward := by
  intro upward downward
  have up : upward.toOption = editUpward? numbers lines := by
    rw [toOption_foldlM, List.foldlM_reverse, editUpward?]
  have down : downward.toOption = editUpward? numbers lines := by
    have same := editUpward?_eq_foldlM sorted 0 lines
    simp only [Int.natCast_zero, Int.add_zero, List.map_id', Nat.add_zero] at same
    rw [toOption_foldlM, same]
  have same (result : List String) : upward = .ok result ↔ downward = .ok result := by
    rw [← toOption_eq_some_iff, up, ← down, toOption_eq_some_iff]
  refine ⟨exists_congr same, ?_, same, ?_⟩
  · have each := isSome_editUpward?_iff sorted 0 lines
    simp only [Int.add_zero, List.map_id', ← up, Option.isSome_iff_exists, edit?,
      toOption_eq_some_iff] at each
    exact each
  · rintro violations rfl
    rw [applicationOrder, ← List.foldlM_map, List.map_reverse]

/-- The first number is repeated, and the last one asks for an insertion behind the last line. -/
theorem foldlM_reverse_iff_corrected_repeated :
    ([2, 2, 3] : List Int).Pairwise (· ≤ ·) ∧
    [3, 2, 2].foldlM insertBlankLine ["/**", " * a"] = .ok ["/**", "/*", "/*", " * a", " *"] ∧
    [2, 3, 5].foldlM insertBlankLine ["/**", " * a"] = .ok ["/**", "/*", "/*", " * a", " *"] := by
  have sorted : ([2, 2, 3] : List Int).Pairwise (· ≤ ·) := by decide
  have upward : [3, 2, 2].foldlM insertBlankLine ["/**", " * a"] =
      .ok ["/**", "/*", "/*", " * a", " *"] := by decide +kernel
  obtain ⟨_, _, same, _⟩ := foldlM_reverse_iff_corrected sorted ["/**", " * a"]
  exact ⟨sorted, upward, (same _).1 upward⟩

end JavadocRepair.Comment
