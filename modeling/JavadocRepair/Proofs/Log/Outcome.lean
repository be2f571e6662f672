import JavadocRepair.Failure
import JavadocRepair.Proofs.Failure.Run
import JavadocRepair.Proofs.Matcher.Definition

/-!
# The outcome of a line

A line is decided by what the first matcher that matches it captures, whatever the other matchers
are. The groups of a matcher are always found in its matches. A line without a path, or without the
numeral of a positive number, is refused with the line itself, a numeral with too many digits
without it, and every other line gives a violation with the path and the number that were captured.
-/

namespace JavadocRepair

/-! ## Decimal numerals -/

namespace Number

variable {digits : List Char}

theorem digitsValue_concat (front : List Char) (c : Char) :
    digitsValue (front ++ [c]) = 10 * digitsValue front + (c.toNat - 48) := by
  simp [digitsValue, Nat.mul_comm]

theorem isAsciiDigit_iff {c : Char} :
    Text.isAsciiDigit c = true ↔ 48 ≤ c.toNat ∧ c.toNat ≤ 57 := by
  simp [Text.isAsciiDigit, Log.le_iff_toNat_le]

theorem digitChar_of_isAsciiDigit {c : Char} (digit : Text.isAsciiDigit c = true) :
    c.toNat - 48 < 10 ∧ Nat.digitChar (c.toNat - 48) = c := by
  have range := isAsciiDigit_iff.1 digit
  have small : c.toNat - 48 < 10 := by omega
  refine ⟨small, Char.toNat_inj.1 ?_⟩
  rw [Nat.toNat_digitChar_of_lt_ten small]
  omega

/-- Only zeros are worth nothing. -/
theorem digitsValue_eq_zero_iff (all : ∀ c ∈ digits, Text.isAsciiDigit c = true) :
    digitsValue digits = 0 ↔ ∀ c ∈ digits, c = '0' := by
  induction digits using List.reverseRecOn with
  | nil => simp [digitsValue]
  | append_singleton front c ih =>
    obtain ⟨others, last⟩ := List.forall_mem_append.1 all
    have range := isAsciiDigit_iff.1 (last c (List.mem_singleton_self c))
    have zero : c.toNat - 48 = 0 ↔ c = '0' := by
      rw [← Char.toNat_inj]
      change c.toNat - 48 = 0 ↔ c.toNat = 48
      omega
    rw [digitsValue_concat, Nat.add_eq_zero_iff, zero, List.forall_mem_append,
      List.forall_mem_singleton, ← ih others]
    simp

/-- Digits that are not all zero are the decimal form of their value, apart from zeros in front. -/
theorem toDigits_digitsValue (all : ∀ c ∈ digits, Text.isAsciiDigit c = true)
    (positive : 1 ≤ digitsValue digits) :
    Nat.toDigits 10 (digitsValue digits) = digits.dropWhile (· == '0') := by
  induction digits using List.reverseRecOn with
  | nil => simp [digitsValue] at positive
  | append_singleton front c ih =>
    obtain ⟨others, last⟩ := List.forall_mem_append.1 all
    obtain ⟨small, same⟩ := digitChar_of_isAsciiDigit (last c (List.mem_singleton_self c))
    rw [digitsValue_concat] at positive ⊢
    by_cases zero : digitsValue front = 0
    · have zeros : ∀ other ∈ front, (other == '0') = true := by
        intro other member
        exact beq_iff_eq.2 ((digitsValue_eq_zero_iff others).1 zero other member)
      have first : (c == '0') = false := by
        rw [beq_eq_false_iff_ne]
        rintro rfl
        simp [zero] at positive
      rw [zero, Nat.mul_zero, Nat.zero_add, Nat.toDigits_of_lt_base small, same,
        List.dropWhile_append_of_pos zeros, List.dropWhile_cons, first]
      rfl
    · have above : 0 < digitsValue front := Nat.pos_of_ne_zero zero
      have kept : front.dropWhile (· == '0') ≠ [] := by
        rw [← ih others above]
        exact Nat.toDigits_ne_nil
      rw [← Nat.toDigits_append_toDigits (by decide) above small, ih others above,
        Nat.toDigits_of_lt_base small, same, List.dropWhile_append,
        if_neg (by simpa using kept)]

end Number

/-! ## Violations of captured texts -/

/-- A path and a positive line number pass the checks of the fields of a violation. -/
theorem Violation.ofFields_eq_ok (path : String) {n : Nat} (positive : 1 ≤ n) :
    Violation.ofFields [("path", .text path), ("line_number", .integer n)] =
      .ok ⟨path, n, positive⟩ := by
  have pathField : requiredField Document.toText "path"
      [("path", .text path), ("line_number", .integer n)] = .ok path := rfl
  have numberField : requiredField lineNumberOf "line_number"
      [("path", .text path), ("line_number", .integer n)] = .ok ⟨n, positive⟩ := by
    refine requiredField_eq_ok_iff.2 ⟨.integer n, rfl, ?_⟩
    simp [lineNumberOf, Document.toInteger, positive]
  rw [ofFields, pathField, numberField]

/-- Reading the text of a pattern that was accepted gives the same pattern again. -/
theorem Matcher.read_source_of_ofEntry {host : Host} {entry : Document} {matcher : Matcher}
    (accepted : ofEntry host entry = .ok matcher) :
    Pattern.read host matcher.pattern.source = .ok matcher.pattern := by
  cases entry with
  | object fields =>
    obtain ⟨_, ⟨source, _, read⟩, _⟩ := ofFields_eq_ok_iff.1 accepted
    have kept : matcher.pattern.source = source := by
      unfold Pattern.read at read
      split at read
      · cases read
      · split at read
        · cases read
        · exact congrArg Pattern.source (Except.ok.inj read).symm
    rw [kept, read]
  | _ => cases accepted

namespace Log

variable {line : String} {matchers : List Matcher} {matcher : Matcher}
  {groups : List (Option String)} {path numeral : Option String}

/-! ## Captured texts -/

/-- What a group of a pattern holds in the groups of a match: a text, or nothing if it took no part.
    The first group has the number 1, and a name stands for the number that it was given to. -/
inductive Holds (pattern : Pattern) (groups : List (Option String)) :
    GroupRef → Option String → Prop where
  | number {n : Int} {text : Option String} (least : 1 ≤ n)
      (found : groups[(n - 1).toNat]? = some text) : Holds pattern groups (.number n) text
  | name {s : String} {index : Nat} {text : Option String}
      (named : pattern.names.lookup s = some (index + 1)) (found : groups[index]? = some text) :
      Holds pattern groups (.name s) text

theorem holds_of_groupText? {pattern : Pattern} {group : GroupRef} {text : Option String}
    (found : groupText? pattern groups group = some text) : Holds pattern groups group text := by
  obtain ⟨index, known, there⟩ := Option.bind_eq_some_iff.1 found
  cases group with
  | number n =>
    simp only [Pattern.groupIndex?, Option.ite_none_right_eq_some, Option.some.injEq] at known
    obtain ⟨⟨least, _⟩, rfl⟩ := known
    rw [← Int.pred_toNat] at there
    exact .number least there
  | name s =>
    obtain ⟨named, inside⟩ := Option.filter_eq_some_iff.1 known
    have least : 0 < index := by
      simp only [Bool.and_eq_true, decide_eq_true_eq] at inside
      exact inside.1
    obtain ⟨index, rfl⟩ : ∃ below, index = below + 1 := ⟨index - 1, by omega⟩
    exact .name named there

/-- A text is a numeral: one ASCII digit or more. -/
def IsNumeral (text : String) : Prop :=
  text.toList ≠ [] ∧ ∀ c ∈ text.toList, Text.isAsciiDigit c = true

/-- A numeral denotes the positive number whose decimal form it is, apart from zeros in front. -/
structure Denotes (text : String) (n : Nat) : Prop where
  numeral : IsNumeral text
  positive : 1 ≤ n
  digits : Nat.toDigits 10 n = text.toList.dropWhile (· == '0')

/-- The outcome of a line in whose first match a matcher captures a path and a numeral. Each of them
    may have taken no part. -/
inductive Decides (line : String) (matcher : Matcher) :
    Option String → Option String → Except LineFault (Option Finding) → Prop where
  | noPath (numeral : Option String) :
      Decides line matcher none numeral (.error ⟨line, .noPath matcher.name⟩)
  | overlong (path : String) {text : String} (overlong : OverlongNumeral text) :
      Decides line matcher (some path) (some text)
        (.error ⟨line, .tooManyDigits text.toList.length⟩)
  | noNumeral (path : String) :
      Decides line matcher (some path) none (.error ⟨line, .badLineNumber none⟩)
  | notPositive (path : String) {text : String} (short : ¬OverlongNumeral text)
      (worthless : IsNumeral text → ∀ c ∈ text.toList, c = '0') :
      Decides line matcher (some path) (some text) (.error ⟨line, .badLineNumber (some text)⟩)
  | violation (path : String) {text : String} {n : Nat} {positive : 1 ≤ n}
      (short : ¬OverlongNumeral text) (denotes : Denotes text n)
      (valid : Violation.ofFields [("path", .text path), ("line_number", .integer n)] =
        .ok ⟨path, n, positive⟩) :
      Decides line matcher (some path) (some text)
        (.ok (some ⟨⟨path, n, positive⟩, matcher.name⟩))

/-! ## Outcomes -/

theorem isNumeral_iff {text : String} :
    IsNumeral text ↔ (text.toList.isEmpty || !text.toList.all Text.isAsciiDigit) = false := by
  simp [IsNumeral]

/-- A numeral that is not too long and not made of zeros gives the number that it denotes. -/
theorem lineNumber?_of_isNumeral {text : String} (numeral : IsNumeral text)
    (short : ¬OverlongNumeral text) (worth : ¬∀ c ∈ text.toList, c = '0') :
    ∃ n positive, lineNumber? (some text) = .ok ⟨n, positive⟩ ∧ Denotes text n := by
  have positive : 1 ≤ Number.digitsValue text.toList := by
    rw [← Number.digitsValue_eq_zero_iff numeral.2] at worth
    omega
  have within : ¬Number.maxDigits < text.toList.length := fun long => short ⟨numeral.2, long⟩
  refine ⟨_, positive, ?_, numeral, positive, Number.toDigits_digitsValue numeral.2 positive⟩
  simp [lineNumber?, isNumeral_iff.1 numeral, within, positive]

/-- A text that is no numeral, or one of zeros only, is no line number. -/
theorem lineNumber?_of_worthless {text : String} (short : ¬OverlongNumeral text)
    (worthless : IsNumeral text → ∀ c ∈ text.toList, c = '0') :
    lineNumber? (some text) = .error (.badLineNumber (some text)) := by
  by_cases numeral : IsNumeral text
  · have within : ¬Number.maxDigits < text.toList.length := fun long => short ⟨numeral.2, long⟩
    have zero := (Number.digitsValue_eq_zero_iff numeral.2).2 (worthless numeral)
    simp [lineNumber?, isNumeral_iff.1 numeral, within, zero]
  · have form := Bool.not_eq_false _ ▸ mt isNumeral_iff.2 numeral
    simp only [lineNumber?, form, if_true]

/-- What a matcher finds in its match decides the line. -/
theorem decides_of_captures (captures : Captures matcher groups path numeral) :
    Decides line matcher path numeral
      (((find matcher groups).map some).mapError (⟨line, ·⟩)) := by
  obtain ⟨pathText, numeralText⟩ := captures
  cases path with
  | none =>
    simp only [find, pathText]
    exact .noPath numeral
  | some path =>
    simp only [find, pathText, numeralText]
    cases numeral with
    | none => exact .noNumeral path
    | some text =>
      by_cases overlong : OverlongNumeral text
      · simp only [lineNumber?_of_overlong overlong]
        exact .overlong path overlong
      by_cases worthless : IsNumeral text → ∀ c ∈ text.toList, c = '0'
      · simp only [lineNumber?_of_worthless overlong worthless]
        exact .notPositive path overlong worthless
      · obtain ⟨numeral, worth⟩ := not_forall.1 worthless
        obtain ⟨n, positive, read, denotes⟩ := lineNumber?_of_isNumeral numeral overlong worth
        simp only [read]
        exact .violation path overlong denotes (Violation.ofFields_eq_ok path positive)

/-- The groups of a matcher are found in its matches. -/
theorem exists_holds (matched : matcher.pattern.match? line = some groups) :
    ∃ path numeral, Captures matcher groups path numeral ∧
      Holds matcher.pattern groups matcher.pathGroup path ∧
      Holds matcher.pattern groups matcher.lineGroup numeral := by
  obtain ⟨path, numeral, captures⟩ := exists_captures matched
  exact ⟨path, numeral, captures, holds_of_groupText? captures.path,
    holds_of_groupText? captures.numeral⟩

/-- The first matcher that matches decides, whatever comes behind it. -/
theorem readLine_of_first {before : List Matcher}
    (unmatched : ∀ earlier ∈ before, earlier.pattern.match? line = none)
    (matched : matcher.pattern.match? line = some groups) (after : List Matcher) :
    readLine line (before ++ matcher :: after) =
      ((find matcher groups).map some).mapError (⟨line, ·⟩) := by
  have first : firstMatch? line (before ++ matcher :: after) = some (matcher, groups) := by
    refine List.findSome?_eq_some_iff.2 ⟨before, matcher, after, rfl, by simp [matched], ?_⟩
    intro earlier member
    rw [unmatched earlier member, Option.map_none]
  simp only [readLine_eq, first]
  cases find matcher groups <;> rfl

/-- Matchers never fail on a line other than by refusing it. Their patterns are the same whenever
    they are read. If none matches, nothing is reported. Else the first that matches finds both its
    groups in the match, what they hold decides the line, and the matchers behind it make no
    difference. A refused line is named by its fault, and all faults are reported as unparsable
    violations but those of numerals with too many digits. -/
theorem readLine_decided :
    (∀ host entry matcher, Matcher.ofEntry host entry = .ok matcher →
      Pattern.read host matcher.pattern.source = .ok matcher.pattern) ∧
    ∀ (line : String) (matchers : List Matcher),
      ((∀ matcher ∈ matchers, matcher.pattern.match? line = none) →
        readLine line matchers = .ok none) ∧
      (∀ before matcher after groups, matchers = before ++ matcher :: after →
        (∀ earlier ∈ before, earlier.pattern.match? line = none) →
        matcher.pattern.match? line = some groups →
        ∃ path numeral, Holds matcher.pattern groups matcher.pathGroup path ∧
          Holds matcher.pattern groups matcher.lineGroup numeral ∧
          Decides line matcher path numeral (readLine line matchers) ∧
          ∀ others, readLine line (before ++ matcher :: others) = readLine line matchers) ∧
      ∀ fault, readLine line matchers = .error fault → fault.line = line ∧
        (fault.failureClass? = some .unparsableViolation ∨
          fault.failureClass? = none ∧ ∃ digits, fault.problem = .tooManyDigits digits) := by
  refine ⟨fun _ _ _ => Matcher.read_source_of_ofEntry, fun line matchers => ⟨?_, ?_, ?_⟩⟩
  · intro unmatched
    have none : firstMatch? line matchers = none := by
      refine List.findSome?_eq_none_iff.2 fun matcher member => ?_
      rw [unmatched matcher member, Option.map_none]
    rw [readLine_eq, none]
  · rintro before matcher after groups rfl unmatched matched
    obtain ⟨path, numeral, captures, pathHolds, numeralHolds⟩ := exists_holds matched
    refine ⟨path, numeral, pathHolds, numeralHolds, ?_, ?_⟩
    · rw [readLine_of_first unmatched matched]
      exact decides_of_captures captures
    · intro others
      rw [readLine_of_first unmatched matched, readLine_of_first unmatched matched]
  · intro fault failed
    by_cases overlong : Overlong matchers line
    · obtain ⟨digits, refused⟩ := readLine_of_overlong overlong
      obtain rfl := Except.error.inj (refused.symm.trans failed)
      exact ⟨rfl, .inr ⟨rfl, digits, rfl⟩⟩
    · obtain ⟨same, classified, _⟩ := failureClass?_of_readLine failed
      exact ⟨same, .inl (classified overlong)⟩

/-- An entry whose path group may take no part, and whose line group has a name. -/
def optionalEntry : Document :=
  .object [("name", .text "optional"), ("pattern", .text "(a)?:(?P<no>.*)"),
    ("line_group", .text "no")]

theorem readLine_decided_optional :
    ∃ matcher, Matcher.ofEntry .ascii optionalEntry = .ok matcher ∧
      Pattern.read .ascii matcher.pattern.source = .ok matcher.pattern ∧
      readLine "a" [matcher] = .ok none ∧
      Decides ":7" matcher none (some "7") (readLine ":7" [matcher]) ∧
      Decides "a:007" matcher (some "a") (some "007") (readLine "a:007" [matcher]) := by
  have shape : (Matcher.ofEntry .ascii optionalEntry).toOption.map (fun matcher =>
      (matcher.pathGroup, matcher.lineGroup, matcher.pattern.names)) =
      some (.number 1, .name "no", [("no", 2)]) := by decide +kernel
  have matched : (Matcher.ofEntry .ascii optionalEntry).toOption.map
      (fun matcher => ["a", ":7", "a:007"].map matcher.pattern.match?) =
      some [none, some [none, some "7"], some [some "a", some "007"]] := by decide +kernel
  cases accepted : Matcher.ofEntry .ascii optionalEntry with
  | error fault => simp [accepted, Except.toOption] at shape
  | ok matcher =>
    simp only [accepted, Except.toOption, Option.map_some, Option.some.injEq, Prod.mk.injEq,
      List.map_cons, List.map_nil, List.cons.injEq] at shape matched
    obtain ⟨pathGroup, lineGroup, names⟩ := shape
    obtain ⟨other, bare, whole, _⟩ := matched
    obtain ⟨again, decided⟩ := readLine_decided
    have captured (line : String) (path numeral : Option String)
        (matched : matcher.pattern.match? line = some [path, numeral]) :
        Decides line matcher path numeral (readLine line [matcher]) := by
      obtain ⟨_, _, pathHolds, numeralHolds, decides, _⟩ :=
        (decided line [matcher]).2.1 [] matcher [] _ rfl (by simp) matched
      rw [pathGroup] at pathHolds
      rw [lineGroup] at numeralHolds
      cases pathHolds with
      | number _ found =>
        cases numeralHolds with
        | name named found' =>
          rw [names] at named
          cases named
          cases found
          cases found'
          exact decides
    refine ⟨matcher, rfl, again _ _ _ accepted, ?_, captured _ _ _ bare, captured _ _ _ whole⟩
    exact (decided "a" [matcher]).1 (by simpa using other)

end Log

end JavadocRepair
