import Mathlib.Data.List.Induction
import JavadocRepair.Text.Lines

/-!
# Lines of texts

Cutting a text into lines undoes writing them, and a `LineBuffer` that is fed a text character by
character hands over the lines that cutting the whole text gives.
-/

namespace JavadocRepair.Text

/-! ## The lines of a whole text -/

/-- A text without the characters that end a line. -/
def IsLine (chars : List Char) : Prop :=
  '\n' ∉ chars ∧ '\r' ∉ chars

/-- Induction on a text along its line ends: a carriage return goes together with the line feed
    behind it, if there is one. -/
@[elab_as_elim]
theorem lineInduction {motive : List Char → Prop} (nil : motive [])
    (newline : ∀ rest, motive rest → motive ('\n' :: rest))
    (returnNewline : ∀ rest, motive rest → motive ('\r' :: '\n' :: rest))
    (carriageReturn : ∀ rest, rest.head? ≠ some '\n' → motive rest → motive ('\r' :: rest))
    (char : ∀ c rest, c ≠ '\n' → c ≠ '\r' → motive rest → motive (c :: rest)) :
    ∀ chars, motive chars
  | [] => nil
  | ['\r'] => carriageReturn [] (by simp) nil
  | '\r' :: '\n' :: rest =>
    returnNewline rest (lineInduction nil newline returnNewline carriageReturn char rest)
  | c :: rest => by
    have tail := lineInduction nil newline returnNewline carriageReturn char rest
    by_cases isNewline : c = '\n'
    · exact isNewline ▸ newline rest tail
    by_cases isReturn : c = '\r'
    · subst isReturn
      by_cases pair : rest.head? = some '\n'
      · cases rest with
        | nil => simp at pair
        | cons d rest =>
          obtain rfl : d = '\n' := by simpa using pair
          exact returnNewline rest
            (lineInduction nil newline returnNewline carriageReturn char rest)
      · exact carriageReturn rest pair tail
    · exact char c rest isNewline isReturn tail

section

variable {done : List String} {line : List Char}

theorem linesFrom_return_newline (rest : List Char) :
    linesFrom done line ('\r' :: '\n' :: rest) =
      linesFrom (String.ofList line.reverse :: done) [] rest := by
  simp [linesFrom]

theorem linesFrom_cons {c : Char} {rest : List Char}
    (single : c = '\r' → rest.head? ≠ some '\n') :
    linesFrom done line (c :: rest) =
      if c = '\n' || c = '\r' then linesFrom (String.ofList line.reverse :: done) [] rest
      else linesFrom done (c :: line) rest := by
  rw [linesFrom.eq_3]
  rintro rest' rfl rfl
  exact single rfl rfl

theorem linesFrom_newline (rest : List Char) :
    linesFrom done line ('\n' :: rest) =
      linesFrom (String.ofList line.reverse :: done) [] rest := by
  rw [linesFrom_cons (by simp)]
  simp

theorem linesFrom_return {rest : List Char} (alone : rest.head? ≠ some '\n') :
    linesFrom done line ('\r' :: rest) =
      linesFrom (String.ofList line.reverse :: done) [] rest := by
  rw [linesFrom_cons fun _ => alone]
  simp

theorem linesFrom_char {c : Char} (notNewline : c ≠ '\n') (notReturn : c ≠ '\r')
    (rest : List Char) : linesFrom done line (c :: rest) = linesFrom done (c :: line) rest := by
  rw [linesFrom_cons fun isReturn => absurd isReturn notReturn]
  simp [notNewline, notReturn]

/-- Lines that are read already stay in front. -/
theorem linesFrom_done (done : List String) (chars : List Char) :
    linesFrom done line chars = done.reverse ++ linesFrom [] line chars := by
  induction chars using lineInduction generalizing done line with
  | nil => cases line <;> simp [linesFrom]
  | newline rest ih =>
    rw [linesFrom_newline, linesFrom_newline, ih, ih [String.ofList line.reverse]]
    simp
  | returnNewline rest ih =>
    rw [linesFrom_return_newline, linesFrom_return_newline, ih,
      ih [String.ofList line.reverse]]
    simp
  | carriageReturn rest alone ih =>
    rw [linesFrom_return alone, linesFrom_return alone, ih,
      ih [String.ofList line.reverse]]
    simp
  | char c rest notNewline notReturn ih =>
    rw [linesFrom_char notNewline notReturn, linesFrom_char notNewline notReturn, ih]

/-- Behind the end of a line, the lines of the rest follow. -/
theorem linesFrom_cut (text : String) (rest : List Char) :
    linesFrom [text] [] rest = text :: lines rest :=
  linesFrom_done [text] rest

/-- Characters that end no line lengthen the one that is being read. -/
theorem linesFrom_append {chars : List Char} (isLine : IsLine chars) (rest : List Char) :
    linesFrom done line (chars ++ rest) = linesFrom done (chars.reverse ++ line) rest := by
  induction chars generalizing line with
  | nil => rfl
  | cons c chars ih =>
    rcases isLine with ⟨noNewline, noReturn⟩
    simp only [List.mem_cons, not_or] at noNewline noReturn
    rw [List.cons_append, linesFrom_char (Ne.symm noNewline.1) (Ne.symm noReturn.1),
      ih ⟨noNewline.2, noReturn.2⟩]
    simp

theorem isLine_nil : IsLine [] := by simp [IsLine]

theorem isLine_cut {rest : List Char} (isLine : IsLine line)
    (later : ∀ text ∈ lines rest, IsLine text.toList) :
    ∀ text ∈ linesFrom [String.ofList line.reverse] [] rest, IsLine text.toList := by
  have reversed : IsLine line.reverse := by simpa [IsLine] using isLine
  rw [linesFrom_cut]
  simpa [reversed] using later

theorem isLine_linesFrom {chars : List Char} (isLine : IsLine line) :
    ∀ text ∈ linesFrom [] line chars, IsLine text.toList := by
  induction chars using lineInduction generalizing line with
  | nil =>
    have reversed : IsLine line.reverse := by simpa [IsLine] using isLine
    cases line <;> simp_all [linesFrom]
  | newline rest ih =>
    rw [linesFrom_newline]
    exact isLine_cut isLine (ih isLine_nil)
  | returnNewline rest ih =>
    rw [linesFrom_return_newline]
    exact isLine_cut isLine (ih isLine_nil)
  | carriageReturn rest alone ih =>
    rw [linesFrom_return alone]
    exact isLine_cut isLine (ih isLine_nil)
  | char c rest notNewline notReturn ih =>
    rw [linesFrom_char notNewline notReturn]
    exact ih ⟨by simp [notNewline.symm, isLine.1], by simp [notReturn.symm, isLine.2]⟩

end

/-- No line of a text holds a character that ends lines. -/
theorem isLine_of_mem_lines {chars : List Char} {text : String} (member : text ∈ lines chars) :
    IsLine text.toList :=
  isLine_linesFrom isLine_nil text member

/-- Written lines are read as they were, if none of them holds a character that ends lines. -/
theorem lines_unlines {texts : List String} (each : ∀ text ∈ texts, IsLine text.toList) :
    lines (unlines texts) = texts := by
  induction texts with
  | nil => rfl
  | cons text texts ih =>
    have first := each text List.mem_cons_self
    have later := ih fun other member => each other (List.mem_cons_of_mem _ member)
    have split : unlines (text :: texts) = text.toList ++ '\n' :: unlines texts := by
      simp [unlines]
    rw [split, lines, linesFrom_append first, linesFrom_newline, linesFrom_cut, later]
    simp

theorem unlines_concat (lines : List String) (line : String) :
    unlines (lines ++ [line]) = unlines lines ++ line.toList ++ ['\n'] := by
  simp [unlines]

theorem getLast?_unlines {lines : List String} (filled : lines ≠ []) :
    (unlines lines).getLast? = some '\n' := by
  rcases List.eq_nil_or_concat lines with rfl | ⟨front, line, rfl⟩
  · exact absurd rfl filled
  · rw [List.concat_eq_append, unlines_concat, List.getLast?_concat]

theorem return_notMem_unlines {lines : List String}
    (each : ∀ text ∈ lines, IsLine text.toList) : '\r' ∉ unlines lines := by
  intro member
  rcases List.mem_flatMap.1 member with ⟨text, inside, found⟩
  rcases List.mem_append.1 found with here | feed
  · exact (each text inside).2 here
  · simp at feed

/-- Behind a line feed a text can be cut in two without cutting a line. -/
theorem linesFrom_append_lines {line front : List Char} (ends : front.getLast? = some '\n')
    (rest : List Char) :
    linesFrom [] line (front ++ rest) = linesFrom [] line front ++ lines rest := by
  induction front using lineInduction generalizing line with
  | nil => cases ends
  | newline tail ih =>
    rw [List.cons_append, linesFrom_newline, linesFrom_newline, linesFrom_cut, linesFrom_cut]
    cases tail with
    | nil => rfl
    | cons c tail =>
      rw [List.getLast?_cons_cons] at ends
      rw [lines, ih ends, ← lines, List.cons_append]
  | returnNewline tail ih =>
    rw [List.cons_append, List.cons_append, linesFrom_return_newline, linesFrom_return_newline,
      linesFrom_cut, linesFrom_cut]
    cases tail with
    | nil => rfl
    | cons c tail =>
      rw [List.getLast?_cons_cons, List.getLast?_cons_cons] at ends
      rw [lines, ih ends, ← lines, List.cons_append]
  | carriageReturn tail alone ih =>
    cases tail with
    | nil => cases ends
    | cons c tail =>
      rw [List.getLast?_cons_cons] at ends
      rw [List.cons_append, linesFrom_return (by simpa using alone), linesFrom_return alone,
        linesFrom_cut, linesFrom_cut, lines, ih ends, ← lines, List.cons_append]
  | char c tail notNewline notReturn ih =>
    cases tail with
    | nil =>
      obtain rfl : c = '\n' := by simpa using ends
      exact absurd rfl notNewline
    | cons d tail =>
      rw [List.getLast?_cons_cons] at ends
      rw [List.cons_append, linesFrom_char notNewline notReturn,
        linesFrom_char notNewline notReturn, ih ends]

/-- The lines of two texts one after the other, if the first is empty or ends in a line feed. -/
theorem lines_append {front : List Char} (ends : front = [] ∨ front.getLast? = some '\n')
    (rest : List Char) : lines (front ++ rest) = lines front ++ lines rest := by
  rcases ends with rfl | ends
  · rfl
  · exact linesFrom_append_lines ends rest

/-! ## Lines character by character -/

namespace LineBuffer

/-- The lines that a buffer hands over for characters, and those that the end then completes. -/
def finish (buffer : LineBuffer) (chars : List Char) : List String :=
  (buffer.pushAll [] chars).1 ++ (buffer.pushAll [] chars).2.last?.toList

@[simp]
theorem last?_empty : empty.last? = none := rfl

theorem pushAll_done (buffer : LineBuffer) (done : List String) (chars : List Char) :
    buffer.pushAll done chars =
      (done.reverse ++ (buffer.pushAll [] chars).1, (buffer.pushAll [] chars).2) := by
  induction chars generalizing buffer done with
  | nil => simp [pushAll]
  | cons c chars ih =>
    simp only [pushAll]
    cases pushed : buffer.push c with
    | mk complete next =>
      cases complete with
      | none =>
        dsimp only
        rw [ih]
      | some line =>
        dsimp only
        rw [ih, ih next [line]]
        simp

theorem pushAll_append (buffer : LineBuffer) (xs ys : List Char) :
    buffer.pushAll [] (xs ++ ys) =
      ((buffer.pushAll [] xs).1 ++ ((buffer.pushAll [] xs).2.pushAll [] ys).1,
        ((buffer.pushAll [] xs).2.pushAll [] ys).2) := by
  induction xs generalizing buffer with
  | nil => simp [pushAll]
  | cons c xs ih =>
    simp only [List.cons_append, pushAll]
    cases pushed : buffer.push c with
    | mk complete next =>
      cases complete with
      | none =>
        dsimp only
        rw [ih]
      | some line =>
        dsimp only
        rw [pushAll_done next [line], pushAll_done next [line] xs, ih]
        simp

theorem finish_append (buffer : LineBuffer) (xs ys : List Char) :
    buffer.finish (xs ++ ys) =
      (buffer.pushAll [] xs).1 ++ (buffer.pushAll [] xs).2.finish ys := by
  simp [finish, pushAll_append]

/-- What is handed over for characters of which the first is pushed already. -/
theorem finish_cons (buffer : LineBuffer) (c : Char) (chars : List Char) :
    buffer.finish (c :: chars) =
      (buffer.push c).1.toList ++ (buffer.push c).2.finish chars := by
  simp only [finish, pushAll]
  cases pushed : buffer.push c with
  | mk complete next =>
    cases complete with
    | none => rfl
    | some line =>
      dsimp only
      rw [pushAll_done next [line]]
      simp

/-- A carriage return that no line feed follows ends its line before the next character. -/
theorem finish_afterReturn {reversed rest : List Char} (alone : rest.head? ≠ some '\n') :
    finish ⟨reversed, true⟩ rest = String.ofList reversed.reverse :: empty.finish rest := by
  cases rest with
  | nil => simp [finish, pushAll, last?, line, empty]
  | cons c rest =>
    have other : c ≠ '\n' := by simpa using alone
    rw [finish_cons, finish_cons]
    by_cases isReturn : c = '\r'
    · simp [push, empty, line, isReturn]
    · simp [push, empty, line, other, isReturn]

theorem finish_eq_linesFrom (reversed chars : List Char) :
    finish ⟨reversed, false⟩ chars = linesFrom [] reversed chars := by
  induction chars using lineInduction generalizing reversed with
  | nil => cases reversed <;> simp [finish, pushAll, last?, line, linesFrom]
  | newline rest ih =>
    rw [finish_cons, linesFrom_newline, linesFrom_cut, lines, ← ih]
    simp [push, empty, line]
  | returnNewline rest ih =>
    rw [finish_cons, linesFrom_return_newline, linesFrom_cut, lines, ← ih]
    simp [push, finish_cons, empty, line]
  | carriageReturn rest alone ih =>
    rw [finish_cons, linesFrom_return alone, linesFrom_cut, lines, ← ih]
    simp [push, finish_afterReturn alone, empty]
  | char c rest notNewline notReturn ih =>
    rw [finish_cons, linesFrom_char notNewline notReturn, ← ih]
    simp [push, notNewline, notReturn]

/-- Character by character, a buffer hands over the lines of the whole text. -/
theorem finish_empty (chars : List Char) : empty.finish chars = lines chars :=
  finish_eq_linesFrom [] chars

theorem pushAll_concat (buffer : LineBuffer) (chars : List Char) (c : Char) :
    buffer.pushAll [] (chars ++ [c]) =
      ((buffer.pushAll [] chars).1 ++ ((buffer.pushAll [] chars).2.push c).1.toList,
        ((buffer.pushAll [] chars).2.push c).2) := by
  rw [pushAll_append]
  cases pushed : (buffer.pushAll [] chars).2.push c with
  | mk complete next => cases complete <;> simp [pushAll, pushed]

/-- A buffer waits for the character behind a carriage return only if that came last. -/
theorem getLast?_of_afterReturn (chars : List Char)
    (waits : (empty.pushAll [] chars).2.afterReturn = true) : chars.getLast? = some '\r' := by
  induction chars using List.reverseRecOn with
  | nil => simp [pushAll, empty] at waits
  | append_singleton chars c =>
    rw [pushAll_concat] at waits
    generalize (empty.pushAll [] chars).2 = buffer at waits
    by_cases isReturn : c = '\r'
    · simp [isReturn]
    · simp only [push] at waits
      split at waits <;> split at waits <;> simp_all [empty]

/-- A line is handed over by the character behind its carriage return, or by its line feed. -/
theorem push_eq_some {buffer next : LineBuffer} {c : Char} {text : String}
    (pushed : buffer.push c = (some text, next)) :
    text = buffer.line ∧ (buffer.afterReturn = true ∨ c = '\n' ∧ next = empty) := by
  simp only [push] at pushed
  split at pushed
  · next returned =>
    refine ⟨?_, .inl returned⟩
    split at pushed
    · simpa using (congrArg Prod.fst pushed).symm
    · split at pushed <;> simpa using (congrArg Prod.fst pushed).symm
  · split at pushed
    · next isNewline =>
      simp only [Prod.mk.injEq, Option.some.injEq] at pushed
      exact ⟨pushed.1.symm, .inr ⟨isNewline, pushed.2.symm⟩⟩
    · split at pushed <;> simp at pushed

/-- A line that a buffer has handed over is the last one of a part of the text that ends where the
    line does, and those handed over before it are the other lines of that part. -/
theorem exists_front_of_handed {chars : List Char} {before after : List String} {text : String}
    (handed : (empty.pushAll [] chars).1 = before ++ text :: after) :
    ∃ front, front <+: chars ∧ (front.getLast? = some '\n' ∨ front.getLast? = some '\r') ∧
      lines front = before ++ [text] := by
  induction chars using List.reverseRecOn generalizing after with
  | nil => simp [pushAll] at handed
  | append_singleton chars c ih =>
    have widen {rest : List String}
        (earlier : (empty.pushAll [] chars).1 = before ++ text :: rest) :
        ∃ front, front <+: chars ++ [c] ∧
          (front.getLast? = some '\n' ∨ front.getLast? = some '\r') ∧
          lines front = before ++ [text] := by
      rcases ih earlier with ⟨front, pre, ends, cut⟩
      exact ⟨front, pre.trans (List.prefix_append _ _), ends, cut⟩
    have beginning := finish_empty chars
    have whole := finish_empty (chars ++ [c])
    simp only [finish, pushAll_concat] at handed beginning whole
    cases pushed : (empty.pushAll [] chars).2.push c with
    | mk complete next =>
      simp only [pushed] at handed whole
      cases complete with
      | none => exact widen (by simpa using handed)
      | some line =>
        -- the line in question is the one that `c` completes, or was handed over before it
        rcases List.eq_nil_or_concat after with rfl | ⟨after, last, rfl⟩
        · rcases List.append_inj' handed rfl with ⟨same, equal⟩
          obtain rfl : line = text := by simpa using equal
          obtain ⟨held, returned | ⟨isNewline, fresh⟩⟩ := push_eq_some pushed
          · have ends := getLast?_of_afterReturn chars returned
            refine ⟨chars, List.prefix_append _ _, .inr ends, ?_⟩
            simpa [last?, returned, ← held, same] using beginning.symm
          · refine ⟨chars ++ [c], List.prefix_rfl, .inl (by simp [isNewline]), ?_⟩
            simpa [fresh, same] using whole.symm
        · have shorter : (empty.pushAll [] chars).1 ++ [line] =
              (before ++ text :: after) ++ [last] := by simpa using handed
          exact widen (List.append_inj' shorter rfl).1

end LineBuffer

end JavadocRepair.Text
