import Mathlib
import JavadocRepair.Log.Line

/-!
# What the first matcher captures

A line is decided by the first matcher that matches it. The groups of a matcher are groups of its
pattern, so looking them up in a match never fails, and all that can be wrong is what they hold: no
path, or a line number that is no positive numeral or has too many digits.
-/

namespace JavadocRepair

/-- Digits are worth less than the power of ten that has one digit more. -/
theorem Number.digitsValue_lt {digits : List Char}
    (all : ∀ c ∈ digits, Text.isAsciiDigit c = true) :
    digitsValue digits < 10 ^ digits.length := by
  induction digits using List.reverseRecOn with
  | nil => simp [digitsValue]
  | append_singleton front c ih =>
    rcases List.forall_mem_append.1 all with ⟨others, last⟩
    have digit := last c (List.mem_singleton_self c)
    have small : c.toNat - 48 < 10 := by
      have high : c.toNat ≤ 57 := by
        simp only [Text.isAsciiDigit, Bool.and_eq_true, decide_eq_true_eq] at digit
        exact digit.2
      omega
    have front_lt := ih others
    simp only [digitsValue, List.foldl_append, List.foldl_cons, List.foldl_nil, List.length_append,
      List.length_singleton, Nat.pow_succ] at front_lt ⊢
    omega

/-- A number of few enough digits can be written. -/
theorem Number.lt_tooLarge {n digits : Nat} (bound : n < 10 ^ digits)
    (short : digits ≤ Number.maxDigits) : n < Number.tooLarge := by
  unfold tooLarge
  generalize Number.maxDigits = limit at short ⊢
  exact Nat.lt_of_lt_of_le bound (Nat.pow_le_pow_right (by decide) short)

namespace Log

variable {line : String} {matchers : List Matcher} {matcher : Matcher}
  {groups : List (Option String)}

/-! ## Groups -/

/-- A match has a text for every group of its pattern. -/
theorem exists_groupText? {group : GroupRef} (matched : matcher.pattern.match? line = some groups)
    (known : (matcher.pattern.groupIndex? group).isSome) :
    ∃ text, groupText? matcher.pattern groups group = some text := by
  have count : groups.length = matcher.pattern.groups := by
    rcases Option.map_eq_some_iff.1 matched with ⟨state, _, rfl⟩
    simp
  rcases Option.isSome_iff_exists.1 known with ⟨index, found⟩
  have inside : 0 < index ∧ index ≤ matcher.pattern.groups := by
    cases group with
    | number n =>
      simp only [Pattern.groupIndex?, Option.ite_none_right_eq_some, Option.some.injEq] at found
      omega
    | name s =>
      simpa using (Option.filter_eq_some_iff.1 found).2
  have there : index - 1 < groups.length := by omega
  exact ⟨groups[index - 1], by simp [groupText?, found, there]⟩

/-- The path and the numeral that a matcher captures. -/
structure Captures (matcher : Matcher) (groups : List (Option String))
    (path numeral : Option String) : Prop where
  path : groupText? matcher.pattern groups matcher.pathGroup = some path
  numeral : groupText? matcher.pattern groups matcher.lineGroup = some numeral

/-- A match has a path and a numeral, of which each may have taken no part. -/
theorem exists_captures (matched : matcher.pattern.match? line = some groups) :
    ∃ path numeral, Captures matcher groups path numeral := by
  rcases exists_groupText? matched matcher.hasPathGroup with ⟨path, pathText⟩
  rcases exists_groupText? matched matcher.hasLineGroup with ⟨numeral, numeralText⟩
  exact ⟨path, numeral, pathText, numeralText⟩

/-! ## Numerals -/

/-- A numeral that has more digits than are converted. -/
def OverlongNumeral (numeral : String) : Prop :=
  (∀ c ∈ numeral.toList, Text.isAsciiDigit c = true) ∧ Number.maxDigits < numeral.toList.length

/-- An overlong numeral is not converted. -/
theorem lineNumber?_of_overlong {numeral : String} (overlong : OverlongNumeral numeral) :
    lineNumber? (some numeral) = .error (.tooManyDigits numeral.toList.length) := by
  rcases overlong with ⟨digits, long⟩
  have some : numeral.toList.isEmpty = false := by
    cases chars : numeral.toList with
    | nil => simp [chars] at long
    | cons c rest => rfl
  have all : numeral.toList.all Text.isAsciiDigit = true := List.all_eq_true.2 digits
  simp [lineNumber?, some, all, long]

/-- A numeral that is refused without being overlong is no numeral of a positive number. -/
theorem problem_of_lineNumber? {numeral : Option String} {problem : LineProblem}
    (refused : lineNumber? numeral = .error problem)
    (short : ∀ text, numeral = some text → ¬OverlongNumeral text) :
    problem = .badLineNumber numeral := by
  cases numeral with
  | none =>
    cases refused
    rfl
  | some text =>
    simp only [lineNumber?] at refused
    split at refused
    · cases refused
      rfl
    · next digits =>
      split at refused
      · next long =>
        have all : text.toList.all Text.isAsciiDigit = true := by simp_all
        exact absurd ⟨List.all_eq_true.1 all, long⟩ (short text rfl)
      · split at refused
        · cases refused
        · cases refused
          rfl

/-- A line number has no more digits than can be written. -/
theorem lineNumber?_lt_tooLarge {numeral : Option String} {number : { n : Nat // 1 ≤ n }}
    (read : lineNumber? numeral = .ok number) : number.1 < Number.tooLarge := by
  cases numeral with
  | none => cases read
  | some text =>
    simp only [lineNumber?] at read
    split_ifs at read with form long positive
    cases read
    have digits : ∀ c ∈ text.toList, Text.isAsciiDigit c = true := by
      simp only [Bool.or_eq_true, Bool.not_eq_true', not_or, Bool.not_eq_false] at form
      exact List.all_eq_true.1 form.2
    exact Number.lt_tooLarge (Number.digitsValue_lt digits) (Nat.le_of_not_lt long)

/-! ## Lines -/

/-- The first matcher that matches a line, and the groups of its match. -/
def firstMatch? (line : String) (matchers : List Matcher) :
    Option (Matcher × List (Option String)) :=
  matchers.findSome? fun matcher => (matcher.pattern.match? line).map (matcher, ·)

/-- A line is decided by the first matcher that matches it. -/
theorem readLine_eq (line : String) (matchers : List Matcher) :
    readLine line matchers =
      match firstMatch? line matchers with
      | none => .ok none
      | some (matcher, groups) =>
        match find matcher groups with
        | .ok finding => .ok (some finding)
        | .error problem => .error ⟨line, problem⟩ := by
  induction matchers with
  | nil => rfl
  | cons matcher matchers ih =>
    cases matched : matcher.pattern.match? line with
    | none =>
      simp only [readLine, matched, ih]
      simp [firstMatch?, matched]
    | some groups =>
      have first : firstMatch? line (matcher :: matchers) = some (matcher, groups) := by
        simp [firstMatch?, matched]
      cases found : find matcher groups with
      | ok finding => simp only [first, readLine, matched, found]
      | error problem => simp only [first, readLine, matched, found]

/-- What a line reports has a number that can be written. -/
theorem lt_tooLarge_of_readLine {finding : Finding}
    (read : readLine line matchers = .ok (some finding)) :
    finding.violation.lineNumber < Number.tooLarge := by
  rw [readLine_eq] at read
  split at read
  · cases read
  · next matcher groups _ =>
    split at read
    · next found =>
      cases read
      unfold find at found
      split at found
      · cases found
      · cases found
      · split at found
        · cases found
        · split at found
          · cases found
          · next _ number =>
            cases found
            exact lineNumber?_lt_tooLarge number
    · cases read
theorem match?_of_firstMatch? (first : firstMatch? line matchers = some (matcher, groups)) :
    matcher.pattern.match? line = some groups := by
  rcases List.exists_of_findSome?_eq_some first with ⟨other, _, found⟩
  rcases Option.map_eq_some_iff.1 found with ⟨texts, matched, same⟩
  cases same
  exact matched

/-- A line whose first match captures a path and an overlong numeral. -/
def Overlong (matchers : List Matcher) (line : String) : Prop :=
  ∃ matcher groups path numeral, firstMatch? line matchers = some (matcher, groups) ∧
    Captures matcher groups (some path) (some numeral) ∧ OverlongNumeral numeral

/-- The fault of an overlong line says how many digits there are. -/
theorem readLine_of_overlong (overlong : Overlong matchers line) :
    ∃ digits, readLine line matchers = .error ⟨line, .tooManyDigits digits⟩ := by
  rcases overlong with ⟨matcher, groups, path, numeral, first, captures, long⟩
  refine ⟨numeral.toList.length, ?_⟩
  rw [readLine_eq, first]
  simp [find, captures.path, captures.numeral, lineNumber?_of_overlong long]

/-- The fault of a line that is not overlong names the line, and says that there is no path or no
    positive line number. -/
theorem fault_of_readLine {fault : LineFault} (failed : readLine line matchers = .error fault)
    (short : ¬Overlong matchers line) :
    fault.line = line ∧
      ((∃ name, fault.problem = .noPath name) ∨
        ∃ numeral, fault.problem = .badLineNumber numeral) := by
  rw [readLine_eq] at failed
  split at failed
  · cases failed
  · next matcher groups first =>
    rcases exists_captures (match?_of_firstMatch? first) with ⟨path, numeral, captures⟩
    cases path with
    | none =>
      simp only [find, captures.path] at failed
      cases failed
      exact ⟨rfl, .inl ⟨_, rfl⟩⟩
    | some path =>
      simp only [find, captures.path, captures.numeral] at failed
      cases refused : lineNumber? numeral with
      | ok number => simp [refused] at failed
      | error problem =>
        have bad := problem_of_lineNumber? refused (by
          rintro text rfl long
          exact short ⟨matcher, groups, path, text, first, captures, long⟩)
        simp only [refused] at failed
        cases failed
        exact ⟨rfl, .inr ⟨_, bad⟩⟩

end Log

end JavadocRepair
