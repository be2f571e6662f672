import JavadocRepair.Log.Line
import JavadocRepair.Proofs.Pattern.Reading

/-!
# The diagnostics that the built-in matchers recognise

A diagnostic has a path, a line number, the name of an at-clause and a full stop, which may be any
character, and is written in one of two forms. A line is a diagnostic in at most one way, and the
built-in matchers recognise exactly the diagnostics.
-/

namespace JavadocRepair.Log

/-- The forms in which the two tools write their diagnostics. -/
inductive Form where
  | standAlone
  | plugIn
  deriving Repr, DecidableEq

namespace Form

/-- What stands before the path. -/
def front : Form → String
  | standAlone => "[checkstyle] [ERROR] "
  | plugIn => "[ERROR] "

/-- What stands between the path and the line number. -/
def opening : Form → String
  | standAlone => ":"
  | plugIn => ":["

/-- What stands between the line number and the message. -/
def closing : Form → String
  | standAlone => ": "
  | plugIn => "] (javadoc) JavadocParagraph: "

/-- What stands behind the message. -/
def back : Form → String
  | standAlone => " [JavadocParagraph]"
  | plugIn => ""

/-- The built-in matcher for a form. -/
def matcher : Form → Matcher
  | standAlone => .checkstyle
  | plugIn => .sevntu

end Form

/-- An ASCII letter or digit, or a low line. -/
def isWordChar (c : Char) : Bool :=
  Text.isAsciiDigit c || ('A' ≤ c && c ≤ 'Z') || ('a' ≤ c && c ≤ 'z') || c = '_'

/-- A diagnostic: its form, the file, the digits of the line number, the name of the at-clause, and
    the character in the place of the full stop. -/
structure Diagnostic where
  form : Form
  path : List Char
  numeral : List Char
  clause : List Char
  stop : Char
  path_line : '\n' ∉ path
  numeral_ne_nil : numeral ≠ []
  numeral_digits : ∀ c ∈ numeral, Text.isAsciiDigit c = true
  clause_ne_nil : clause ≠ []
  clause_word : ∀ c ∈ clause, isWordChar c = true
  stop_line : stop ≠ '\n'

namespace Diagnostic

/-- The part of a diagnostic before its line number. -/
def head (d : Diagnostic) : List Char :=
  d.form.front.toList ++ d.path ++ d.form.opening.toList

/-- The characters of the line in which a diagnostic is written. -/
def text (d : Diagnostic) : List Char :=
  d.head ++ d.numeral ++ d.form.closing.toList
    ++ "Javadoc at-clause '@".toList ++ d.clause
    ++ "' should be preceded with an empty line".toList ++ [d.stop] ++ d.form.back.toList

end Diagnostic

/-! ## A line is written in one way -/

/-- A list has one part behind the last occurrence of an element. -/
theorem append_cons_inj_of_notMem {α : Type} {xs ys front back : List α} {a : α}
    (notFront : a ∉ front) (notBack : a ∉ back)
    (equal : xs ++ a :: front = ys ++ a :: back) : xs = ys ∧ front = back := by
  rcases List.append_eq_append_iff.1 equal with ⟨between, rfl, split⟩ | ⟨between, rfl, split⟩
  · cases between with
    | nil => simpa using split
    | cons b between =>
      simp only [List.cons_append, List.cons.injEq] at split
      exact absurd (split.2 ▸ by simp) notFront
  · cases between with
    | nil => simpa [eq_comm] using split
    | cons b between =>
      simp only [List.cons_append, List.cons.injEq] at split
      exact absurd (split.2 ▸ by simp) notBack

namespace Diagnostic

theorem form_eq_of_text_eq {d e : Diagnostic} (equal : d.text = e.text) : d.form = e.form := by
  have second (d : Diagnostic) : d.text[1]? = some (if d.form = .standAlone then 'c' else 'E') := by
    cases form : d.form <;> simp [text, head, form, Form.front]
  have letters := second d
  rw [equal, second e] at letters
  cases first : d.form <;> cases other : e.form <;> simp_all

theorem notMem_numeral {d : Diagnostic} {c : Char} (other : Text.isAsciiDigit c = false) :
    c ∉ d.numeral := by
  intro member
  simp [d.numeral_digits c member] at other

theorem at_notMem_clause (d : Diagnostic) : '@' ∉ d.clause := by
  intro member
  have word := d.clause_word '@' member
  revert word
  decide

theorem head_inj {d e : Diagnostic} (form : d.form = e.form)
    (equal : d.head ++ d.numeral = e.head ++ e.numeral) :
    d.path = e.path ∧ d.numeral = e.numeral := by
  cases written : e.form with
  | standAlone =>
    simp only [head, form, written, Form.opening] at equal
    have split : (Form.standAlone.front.toList ++ d.path) ++ ':' :: d.numeral =
        (Form.standAlone.front.toList ++ e.path) ++ ':' :: e.numeral := by simpa using equal
    obtain ⟨paths, numerals⟩ :=
      append_cons_inj_of_notMem (notMem_numeral rfl) (notMem_numeral rfl) split
    exact ⟨List.append_cancel_left paths, numerals⟩
  | plugIn =>
    simp only [head, form, written, Form.opening] at equal
    have split : (Form.plugIn.front.toList ++ d.path ++ [':']) ++ '[' :: d.numeral =
        (Form.plugIn.front.toList ++ e.path ++ [':']) ++ '[' :: e.numeral := by simpa using equal
    obtain ⟨paths, numerals⟩ :=
      append_cons_inj_of_notMem (notMem_numeral rfl) (notMem_numeral rfl) split
    exact ⟨List.append_cancel_left (List.append_cancel_right paths), numerals⟩

/-- No line is a diagnostic in two ways. -/
theorem eq_of_text_eq {d e : Diagnostic} (equal : d.text = e.text) : d = e := by
  have form := form_eq_of_text_eq equal
  simp only [text, form] at equal
  obtain ⟨message, stop⟩ := List.append_inj' (List.append_cancel_right equal) rfl
  have clause := List.append_cancel_right message
  have name : "Javadoc at-clause '@".toList = "Javadoc at-clause '".toList ++ ['@'] := rfl
  rw [name, ← List.append_assoc, ← List.append_assoc, List.append_assoc _ ['@'],
    List.append_assoc _ ['@']] at clause
  obtain ⟨front, clauses⟩ :=
    append_cons_inj_of_notMem d.at_notMem_clause e.at_notMem_clause clause
  obtain ⟨paths, numerals⟩ :=
    head_inj form (List.append_cancel_right (List.append_cancel_right front))
  cases d
  cases e
  simp_all

/-- The marks of the groups where the pattern of its form has read a diagnostic. -/
def marks (d : Diagnostic) : List Pattern.Mark :=
  let pathStart := d.form.front.toList.length
  let pathStop := pathStart + d.path.length
  let numeralStart := pathStop + d.form.opening.toList.length
  [⟨some pathStart, some pathStop⟩, ⟨some numeralStart, some (numeralStart + d.numeral.length)⟩]

end Diagnostic

/-! ## The built-in patterns read diagnostics -/

theorem anyChar_contains {c : Char} : Pattern.anyChar.contains c = true ↔ c ≠ '\n' := by
  simp [Pattern.anyChar, Pattern.CharSet.contains, Pattern.Member.contains, ← Char.toNat_inj]

theorem le_iff_toNat_le {c d : Char} : c ≤ d ↔ c.toNat ≤ d.toNat := by
  rw [Char.le_def, UInt32.le_iff_toNat_le, Char.toNat_val, Char.toNat_val]

theorem digit_contains (c : Char) :
    (Pattern.CharSet.ofCategory .digit .ascii false).contains c = Text.isAsciiDigit c := by
  simp [Pattern.CharSet.ofCategory, Pattern.CharSet.contains, Pattern.Member.contains,
    Pattern.Category.contains, Text.isAsciiDigit, le_iff_toNat_le]

theorem word_contains (c : Char) :
    (Pattern.CharSet.ofCategory .word .ascii false).contains c = isWordChar c := by
  have lowLine : (c.toNat == 95) = decide (c = '_') := by
    rw [Bool.eq_iff_iff]
    simp [← Char.toNat_inj]
  simp only [Pattern.CharSet.ofCategory, Pattern.CharSet.contains, Pattern.Member.contains,
    Pattern.Category.contains, isWordChar, Text.isAsciiDigit, le_iff_toNat_le, lowLine]
  simp [Bool.or_right_comm, Bool.or_assoc, Bool.or_comm (decide (c = '_'))]

/-- The pattern of a form. -/
def Form.root (form : Form) : Pattern.Node :=
  .sequenceOf (Pattern.literal form.front ++ Pattern.pathNode 1 :: Pattern.literal form.opening
    ++ Pattern.digitsNode 2 :: Pattern.literal form.closing ++ Pattern.diagnostic
    ++ Pattern.literal form.back)

theorem Form.root_eq (form : Form) : form.matcher.pattern.root = form.root := by
  cases form
  · rfl
  · exact (congrArg Pattern.Node.sequenceOf (List.append_nil _)).symm

section

open Pattern

variable {state reached : State} {text : List Char} {index : Nat} {nodes : List Node}

theorem reads_pathNode :
    (Node.sequenceOf (pathNode index :: nodes)).Reads state text reached ↔
      ∃ path rest, '\n' ∉ path ∧ text = path ++ rest ∧
        (Node.sequenceOf nodes).Reads
          (((state.openGroup index).advance path.length).closeGroup index) rest reached := by
  apply reads_sequenceOf_cons_of
  intro path middle
  constructor
  · intro reads
    cases reads with
    | group reads =>
      cases reads with
      | run _ _ members =>
        exact ⟨fun member => anyChar_contains.1 (members _ member) rfl, rfl⟩
  · intro accepted
    rcases accepted with ⟨oneLine, rfl⟩
    refine .group (.run (Nat.zero_le _) (by simp) fun c member => anyChar_contains.2 ?_)
    intro isNewline
    exact oneLine (isNewline ▸ member)

theorem reads_digitsNode :
    (Node.sequenceOf (digitsNode index :: nodes)).Reads state text reached ↔
      ∃ numeral rest, (numeral ≠ [] ∧ ∀ c ∈ numeral, Text.isAsciiDigit c = true) ∧
        text = numeral ++ rest ∧ (Node.sequenceOf nodes).Reads
          (((state.openGroup index).advance numeral.length).closeGroup index) rest reached := by
  apply reads_sequenceOf_cons_of
  intro numeral middle
  constructor
  · intro reads
    cases reads with
    | group reads =>
      cases reads with
      | run enough _ members =>
        exact ⟨⟨List.ne_nil_of_length_pos enough,
          fun c member => digit_contains c ▸ members c member⟩, rfl⟩
  · intro accepted
    rcases accepted with ⟨⟨notEmpty, digits⟩, rfl⟩
    exact .group (.run (List.length_pos_iff.2 notEmpty) (by simp)
      fun c member => (digit_contains c).trans (digits c member))

theorem reads_wordNode :
    (Node.sequenceOf (.run .greedy 1 none (.ofCategory .word .ascii false) :: nodes)).Reads
        state text reached ↔
      ∃ word rest, (word ≠ [] ∧ ∀ c ∈ word, isWordChar c = true) ∧ text = word ++ rest ∧
        (Node.sequenceOf nodes).Reads (state.advance word.length) rest reached := by
  apply reads_sequenceOf_cons_of
  intro word middle
  constructor
  · intro reads
    cases reads with
    | run enough _ members =>
      exact ⟨⟨List.ne_nil_of_length_pos enough,
        fun c member => word_contains c ▸ members c member⟩, rfl⟩
  · intro accepted
    rcases accepted with ⟨⟨notEmpty, letters⟩, rfl⟩
    exact .run (List.length_pos_iff.2 notEmpty) (by simp)
      fun c member => (word_contains c).trans (letters c member)

theorem reads_anyChar :
    (Node.sequenceOf (.char anyChar :: nodes)).Reads state text reached ↔
      ∃ stop rest, (∃ c, c ≠ '\n' ∧ stop = [c]) ∧ text = stop ++ rest ∧
        (Node.sequenceOf nodes).Reads (state.advance 1) rest reached := by
  apply reads_sequenceOf_cons_of
  intro stop middle
  constructor
  · intro reads
    cases reads with
    | char member => exact ⟨⟨_, anyChar_contains.1 member, rfl⟩, rfl⟩
  · intro accepted
    rcases accepted with ⟨⟨c, other, rfl⟩, rfl⟩
    exact .char (anyChar_contains.2 other)

/-- The state behind a diagnostic, part by part. -/
theorem state_of_parts (d : Diagnostic) :
    (State.initial 2 |>.advance d.form.front.toList.length
      |>.openGroup 1 |>.advance d.path.length |>.closeGroup 1
      |>.advance d.form.opening.toList.length
      |>.openGroup 2 |>.advance d.numeral.length |>.closeGroup 2
      |>.advance d.form.closing.toList.length |>.advance "Javadoc at-clause '@".toList.length
      |>.advance d.clause.length |>.advance "' should be preceded with an empty line".toList.length
      |>.advance 1 |>.advance d.form.back.toList.length) = ⟨d.text.length, d.marks⟩ := by
  simp only [Diagnostic.text, Diagnostic.head, List.length_append, List.length_singleton]
  simp [State.advance, State.openGroup, State.closeGroup, State.initial, Diagnostic.marks]

/-- The pattern of a form reads the diagnostics of that form. -/
theorem reads_root {form : Form} :
    form.root.Reads (.initial 2) text reached ↔
      ∃ d : Diagnostic, d.form = form ∧ d.text = text ∧ reached = ⟨text.length, d.marks⟩ := by
  simp only [Form.root, diagnostic, List.append_assoc, List.cons_append, List.nil_append,
    reads_literal_append, reads_pathNode, reads_digitsNode, reads_wordNode, reads_anyChar,
    reads_literal]
  constructor
  · intro parts
    rcases parts with ⟨_, rfl, path, _, oneLine, rfl, _, rfl, numeral, _, ⟨notEmpty, digits⟩, rfl,
      _, rfl, _, rfl, clause, _, ⟨someClause, word⟩, rfl, _, rfl, _, _, ⟨stop, stopLine, rfl⟩, rfl,
      rfl, rfl⟩
    obtain ⟨d, rfl, rfl, rfl, rfl, rfl⟩ : ∃ d : Diagnostic, d.form = form ∧ d.path = path ∧
        d.numeral = numeral ∧ d.clause = clause ∧ d.stop = stop :=
      ⟨⟨form, path, numeral, clause, stop, oneLine, notEmpty, digits, someClause, word, stopLine⟩,
        rfl, rfl, rfl, rfl, rfl⟩
    refine ⟨d, rfl, ?_, ?_⟩
    · simp only [Diagnostic.text, Diagnostic.head, List.append_assoc]
    · rw [state_of_parts]
      simp only [Diagnostic.text, Diagnostic.head, List.append_assoc]
  · intro parts
    rcases parts with ⟨d, rfl, rfl, rfl⟩
    refine ⟨_, ?_, d.path, _, d.path_line, rfl, _, rfl, d.numeral, _,
      ⟨d.numeral_ne_nil, d.numeral_digits⟩, rfl, _, rfl, _, rfl, d.clause, _,
      ⟨d.clause_ne_nil, d.clause_word⟩, rfl, _, rfl, _, _, ⟨d.stop, d.stop_line, rfl⟩, rfl, rfl, ?_⟩
    · simp only [Diagnostic.text, Diagnostic.head, List.append_assoc]
    · rw [state_of_parts]

end

theorem isPlain_root (form : Form) : form.root.isPlain = true := by
  cases form <;> rfl

/-- The groups of a diagnostic. -/
def Diagnostic.groups (d : Diagnostic) : List (Option String) :=
  [some (String.ofList d.path), some (String.ofList d.numeral)]

theorem extract_middle {front middle back whole : List Char}
    (split : whole = front ++ middle ++ back) :
    (whole.toArray.extract front.length (front.length + middle.length)).toList = middle := by
  subst split
  simp [List.extract_eq_take_drop]

theorem groups_of_marks (d : Diagnostic) (position : Nat) :
    ((List.range 2).map fun index =>
      ((⟨position, d.marks⟩ : Pattern.State).span? (index + 1)).map fun (start, stop) =>
        String.ofList (d.text.toArray.extract start stop).toList) = d.groups := by
  obtain ⟨afterPath, path⟩ : ∃ back, d.text = d.form.front.toList ++ d.path ++ back :=
    ⟨_, by simp only [Diagnostic.text, Diagnostic.head, List.append_assoc]; rfl⟩
  obtain ⟨afterNumeral, numeral⟩ : ∃ back, d.text = d.head ++ d.numeral ++ back :=
    ⟨_, by simp only [Diagnostic.text, List.append_assoc]; rfl⟩
  have pathText := extract_middle path
  have numeralText := extract_middle numeral
  have pathSpan : (⟨position, d.marks⟩ : Pattern.State).span? (0 + 1) =
      some (d.form.front.toList.length, d.form.front.toList.length + d.path.length) := by
    simp [Pattern.State.span?, Diagnostic.marks]
  have numeralSpan : (⟨position, d.marks⟩ : Pattern.State).span? (1 + 1) =
      some (d.head.length, d.head.length + d.numeral.length) := by
    simp [Pattern.State.span?, Diagnostic.marks, Diagnostic.head, Nat.add_assoc]
  rw [show List.range 2 = [0, 1] from rfl, List.map_cons, List.map_cons, pathSpan, numeralSpan]
  simp only [List.map_nil, Option.map_some, pathText, numeralText]
  rfl

/-- The built-in matcher of a form matches the diagnostics of that form. -/
theorem match?_eq_some_iff {form : Form} {line : String} {groups : List (Option String)} :
    form.matcher.pattern.match? line = some groups ↔
      ∃ d : Diagnostic, d.form = form ∧ d.text = line.toList ∧ groups = d.groups := by
  have count : form.matcher.pattern.groups = 2 := by cases form <;> rfl
  have sound {state : Pattern.State}
      (found : form.root.matchAll? 2 line.toList.toArray = some state) :
      ∃ d : Diagnostic, d.form = form ∧ d.text = line.toList ∧
        state = ⟨line.toList.length, d.marks⟩ :=
    reads_root.1 (Pattern.matchAll?_sound (isPlain_root form) found)
  simp only [Pattern.match?, Option.map_eq_some_iff, Form.root_eq, count]
  constructor
  · intro parts
    rcases parts with ⟨state, found, rfl⟩
    obtain ⟨d, same, text, rfl⟩ := sound found
    exact ⟨d, same, text, by rw [← groups_of_marks, text]⟩
  · intro parts
    rcases parts with ⟨d, rfl, text, rfl⟩
    have reads : d.form.root.Reads (.initial 2) line.toList.toArray.toList
        ⟨line.toList.length, d.marks⟩ := reads_root.2 ⟨d, rfl, text, rfl⟩
    obtain ⟨state, found⟩ :=
      Option.isSome_iff_exists.1 (Pattern.matchAll?_complete (isPlain_root d.form) reads)
    obtain ⟨e, _, again, rfl⟩ := sound found
    obtain rfl : e = d := Diagnostic.eq_of_text_eq (again.trans text.symm)
    exact ⟨_, found, by rw [← text, groups_of_marks]⟩

/-! ## What a line reports -/

namespace Diagnostic

/-- The line number of a diagnostic. -/
def lineNumber (d : Diagnostic) : Nat := Number.digitsValue d.numeral

/-- What the line of a diagnostic reports: its violation, unless the line number has more than
    4300 digits or is zero. -/
def report (d : Diagnostic) : Except LineFault (Option Finding) :=
  if 4300 < d.numeral.length then
    .error ⟨String.ofList d.text, .tooManyDigits d.numeral.length⟩
  else if positive : 1 ≤ d.lineNumber then
    .ok (some ⟨⟨String.ofList d.path, d.lineNumber, positive⟩, d.form.matcher.name⟩)
  else .error ⟨String.ofList d.text, .badLineNumber (some (String.ofList d.numeral))⟩

end Diagnostic

theorem find_groups (d : Diagnostic) :
    find d.form.matcher d.groups =
      match lineNumber? (some (String.ofList d.numeral)) with
      | .error problem => .error problem
      | .ok ⟨n, positive⟩ => .ok ⟨⟨String.ofList d.path, n, positive⟩, d.form.matcher.name⟩ := by
  cases form : d.form <;> rfl

theorem lineNumber?_numeral (d : Diagnostic) :
    lineNumber? (some (String.ofList d.numeral)) =
      if 4300 < d.numeral.length then .error (.tooManyDigits d.numeral.length)
      else if positive : 1 ≤ d.lineNumber then .ok ⟨d.lineNumber, positive⟩
      else .error (.badLineNumber (some (String.ofList d.numeral))) := by
  have digits : d.numeral.all Text.isAsciiDigit = true :=
    List.all_eq_true.2 d.numeral_digits
  simp [lineNumber?, digits, d.numeral_ne_nil, Number.maxDigits, Diagnostic.lineNumber]
  rfl

/-- Whatever the order of the forms, a line that is no diagnostic reports nothing. -/
theorem readLine_of_not_diagnostic {line : String}
    (other : ¬∃ d : Diagnostic, d.text = line.toList) (forms : List Form) :
    readLine line (forms.map Form.matcher) = .ok none := by
  induction forms with
  | nil => rfl
  | cons form forms ih =>
    have unmatched : form.matcher.pattern.match? line = none := by
      cases found : form.matcher.pattern.match? line with
      | none => rfl
      | some groups =>
        obtain ⟨d, _, text, _⟩ := match?_eq_some_iff.1 found
        exact absurd ⟨d, text⟩ other
    simp only [List.map_cons, readLine, unmatched, ih]

/-- Whatever the order of the forms, a diagnostic in one of them reports its violation. -/
theorem readLine_of_diagnostic {d : Diagnostic} {line : String} (text : d.text = line.toList)
    {forms : List Form} (member : d.form ∈ forms) :
    readLine line (forms.map Form.matcher) = d.report := by
  induction forms with
  | nil => cases member
  | cons form forms ih =>
    simp only [List.map_cons, readLine]
    by_cases same : d.form = form
    · subst same
      have whole : String.ofList d.text = line := by rw [text, String.ofList_toList]
      rw [match?_eq_some_iff.2 ⟨d, rfl, text, rfl⟩]
      simp only [find_groups, lineNumber?_numeral, Diagnostic.report, whole]
      by_cases long : 4300 < d.numeral.length
      · simp [long]
      · by_cases positive : 1 ≤ d.lineNumber
        · simp [long, positive]
        · simp [long, positive]
    · have unmatched : form.matcher.pattern.match? line = none := by
        cases found : form.matcher.pattern.match? line with
        | none => rfl
        | some groups =>
          obtain ⟨e, form_e, again, _⟩ := match?_eq_some_iff.1 found
          exact absurd (Diagnostic.eq_of_text_eq (text.trans again.symm) ▸ form_e) same
      rw [unmatched]
      exact ih (List.mem_of_ne_of_mem same member)

/-- The built-in matchers decide a line by the diagnostic that it is: there is at most one, of
    either form, and the order of the matchers does not matter. A line that is no diagnostic reports
    nothing. -/
theorem readLine_builtin (line : String) :
    (∀ d e : Diagnostic, d.text = line.toList → e.text = line.toList → d = e) ∧
    readLine line Matcher.builtin.reverse = readLine line Matcher.builtin ∧
    ((¬∃ d : Diagnostic, d.text = line.toList) → readLine line Matcher.builtin = .ok none) ∧
    (∀ d : Diagnostic, d.text = line.toList → readLine line Matcher.builtin = d.report) := by
  have builtin : Matcher.builtin = [Form.standAlone, Form.plugIn].map Form.matcher := rfl
  have reversed : Matcher.builtin.reverse = [Form.plugIn, Form.standAlone].map Form.matcher := rfl
  have inBoth (d : Diagnostic) :
      d.form ∈ [Form.standAlone, Form.plugIn] ∧ d.form ∈ [Form.plugIn, Form.standAlone] := by
    cases d.form <;> simp
  rw [reversed, builtin]
  refine ⟨?_, ?_, ?_, ?_⟩
  · intro d e text again
    exact Diagnostic.eq_of_text_eq (text.trans again.symm)
  · by_cases some : ∃ d : Diagnostic, d.text = line.toList
    · obtain ⟨d, text⟩ := some
      rw [readLine_of_diagnostic text (inBoth d).1, readLine_of_diagnostic text (inBoth d).2]
    · rw [readLine_of_not_diagnostic some, readLine_of_not_diagnostic some]
  · intro other
    exact readLine_of_not_diagnostic other _
  · intro d text
    exact readLine_of_diagnostic text (inBoth d).1

/-- A diagnostic of the build plug-in whose path is a diagnostic of the stand-alone tool. -/
def nested : Diagnostic where
  form := .plugIn
  path := ("[checkstyle] [ERROR] C:12:34: Javadoc at-clause '@a' should be preceded "
    ++ "with an empty line. [JavadocParagraph]").toList
  numeral := "07".toList
  clause := "return_1".toList
  stop := ':'
  path_line := by decide
  numeral_ne_nil := by decide
  numeral_digits := List.all_eq_true.1 (by decide)
  clause_ne_nil := by decide
  clause_word := List.all_eq_true.1 (by decide)
  stop_line := by decide

theorem readLine_builtin_nested :
    nested.text = (String.ofList nested.text).toList ∧
    readLine (String.ofList nested.text) Matcher.builtin =
      .ok (some ⟨⟨String.ofList nested.path, 7, by decide⟩, "sevntu"⟩) ∧
    (¬∃ d : Diagnostic, d.text = "".toList) ∧ readLine "" Matcher.builtin = .ok none := by
  have text : nested.text = (String.ofList nested.text).toList := String.toList_ofList.symm
  have other : ¬∃ d : Diagnostic, d.text = "".toList := by
    rintro ⟨d, text⟩
    simp [Diagnostic.text] at text
  exact ⟨text, (readLine_builtin _).2.2.2 nested text, other, (readLine_builtin "").2.2.1 other⟩

end JavadocRepair.Log
