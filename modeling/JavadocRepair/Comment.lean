import JavadocRepair.Number.Integer
import JavadocRepair.Text.Quoted

/-!
# Blank comment lines

The blank line that goes in front of an at-clause is cut out of the line before it: everything up
to the first asterisk. So it has the indentation of the comment and needs no knowledge of it.
-/

namespace JavadocRepair.Comment

/-- Why no blank comment line can be put in front of a line. -/
inductive Fault where
  | noAsterisk (line : String)
  | noPrecedingLine (lineNumber : Int) (lineCount : Nat)
  | numberTooLarge
  deriving Repr, DecidableEq

/-- The wording of a fault. -/
def Fault.message : Fault → String
  | .noAsterisk line => s!"no comment asterisk in line {Text.quoted line}"
  | .noPrecedingLine lineNumber lineCount =>
    s!"line {lineNumber} has no preceding line in a {lineCount}-line file"
  | .numberTooLarge => Number.tooLargeMessage

/-- The fault of a number without a line before it. Its wording names the number, so a number that
    is too large to be written is a fault of its own. -/
def Fault.outside (lineNumber : Int) (lineCount : Nat) : Fault :=
  if lineNumber.natAbs < Number.tooLarge then .noPrecedingLine lineNumber lineCount
  else .numberTooLarge

/-- The beginning of a text up to its first asterisk. -/
def throughAsterisk? (text : List Char) : Option (List Char) :=
  if text.contains '*' then some (text.takeWhile (· != '*') ++ ['*']) else none

/-- The blank comment line that fits below a line. -/
def blankLine (previous : String) : Except Fault String :=
  match throughAsterisk? previous.toList with
  | some blank => .ok (String.ofList blank)
  | none => .error (.noAsterisk previous)

/-- Puts a blank comment line in front of the line with a number, counted from 1. The number just
    above that of the last line means the end. -/
def insertBlankLine (lines : List String) (lineNumber : Int) : Except Fault (List String) :=
  if lineNumber < 2 then .error (.outside lineNumber lines.length)
  else
    let previous := (lineNumber - 2).toNat
    match lines[previous]? with
    | none => .error (.outside lineNumber lines.length)
    | some line =>
      match blankLine line with
      | .error fault => .error fault
      | .ok blank => .ok (lines.insertIdx (previous + 1) blank)

/-- The line with the number is there afterwards: it is the one that was put in. -/
theorem lt_length_of_insertBlankLine {lines patched : List String} {lineNumber : Nat}
    (inserted : insertBlankLine lines lineNumber = .ok patched) :
    lineNumber - 1 < patched.length := by
  unfold insertBlankLine at inserted
  split at inserted
  · cases inserted
  · dsimp only at inserted
    split at inserted
    · cases inserted
    · next line found =>
      have inside := (List.getElem?_eq_some_iff.1 found).1
      split at inserted
      · cases inserted
      · cases inserted
        rw [List.length_insertIdx]
        split <;> omega

end JavadocRepair.Comment
