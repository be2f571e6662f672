import JavadocRepair.Matcher.Basic
import JavadocRepair.Violation

/-!
# Log lines

A line of a log reports what the first matcher that matches it finds in it. The line number has to
be written in ASCII digits and to be positive; a numeral with too many digits is not converted.
-/

namespace JavadocRepair.Log

/-- Why a line that a matcher recognises reports no violation. -/
inductive LineProblem where
  | noPath (matcher : String)
  | badLineNumber (numeral : Option String)
  | noSuchGroup (group : GroupRef)
  | tooManyDigits (digits : Nat)
  deriving Repr, DecidableEq

/-- A problem and the line that has it. -/
structure LineFault where
  line : String
  problem : LineProblem
  deriving Repr, DecidableEq

/-- A violation and the name of the matcher that found it. -/
structure Finding where
  violation : Violation
  matcher : String
  deriving Repr, DecidableEq

/-- The wording of a problem by itself. -/
def LineProblem.reason : LineProblem → String
  | .noPath matcher => s!"no path captured by matcher {Text.quoted matcher}"
  | .badLineNumber none => "invalid line number None"
  | .badLineNumber (some numeral) => s!"invalid line number {Text.quoted numeral}"
  | .noSuchGroup _ => "no such group"
  | .tooManyDigits digits => Number.tooManyDigitsMessage digits

/-- The wording of a reason that is reported with its line. -/
def inLine (reason line : String) : String :=
  s!"{reason} in log line: {line}"

/-- The wording of a fault: with its line, unless it says all there is to know about a numeral. -/
def LineFault.message (fault : LineFault) : String :=
  match fault.problem with
  | .tooManyDigits _ => fault.problem.reason
  | _ => inLine fault.problem.reason fault.line

/-- The text of a group in the groups of a match: nothing if there is no such group, and an empty
    option if the group took no part. -/
def groupText? (pattern : Pattern) (groups : List (Option String)) (group : GroupRef) :
    Option (Option String) :=
  (pattern.groupIndex? group).bind fun index => groups[index - 1]?

/-- A line number from its numeral. -/
def lineNumber? (numeral : Option String) : Except LineProblem { n : Nat // 1 ≤ n } :=
  match numeral with
  | none => .error (.badLineNumber none)
  | some s =>
    let digits := s.toList
    if digits.isEmpty || !digits.all Text.isAsciiDigit then .error (.badLineNumber (some s))
    else if Number.maxDigits < digits.length then .error (.tooManyDigits digits.length)
    else if h : 1 ≤ Number.digitsValue digits then .ok ⟨Number.digitsValue digits, h⟩
    else .error (.badLineNumber (some s))

/-- What a matcher finds in the groups of its match. -/
def find (matcher : Matcher) (groups : List (Option String)) : Except LineProblem Finding :=
  match groupText? matcher.pattern groups matcher.pathGroup with
  | none => .error (.noSuchGroup matcher.pathGroup)
  | some none => .error (.noPath matcher.name)
  | some (some path) =>
    match groupText? matcher.pattern groups matcher.lineGroup with
    | none => .error (.noSuchGroup matcher.lineGroup)
    | some numeral =>
      match lineNumber? numeral with
      | .error problem => .error problem
      | .ok ⟨n, h⟩ => .ok ⟨⟨path, n, h⟩, matcher.name⟩

/-- What a line reports. -/
def readLine (line : String) : List Matcher → Except LineFault (Option Finding)
  | [] => .ok none
  | matcher :: rest =>
    match matcher.pattern.match? line with
    | none => readLine line rest
    | some groups =>
      match find matcher groups with
      | .ok finding => .ok (some finding)
      | .error problem => .error ⟨line, problem⟩

end JavadocRepair.Log
