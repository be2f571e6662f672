import JavadocRepair.Number.Integer
import JavadocRepair.Pattern.Basic
import JavadocRepair.Text.Quoted

/-!
# What can be wrong with a pattern

A problem stands at a position of the pattern. Four faults have no position: a look-behind of
variable width, a repetition under the flag that allows none, flags that ask for ASCII and for
Unicode classes, and a repetition count with too many digits. Two faults are no defects of the
pattern's form and are reported apart: a number that does not fit, be it a repetition count or a
code point, and a stack that is too small for what the pattern nests.
-/

namespace JavadocRepair.Pattern

/-- What is wrong at a position of a pattern. -/
inductive Problem where
  | openSubpattern
  | openComment
  | openName (closer : Char)
  | openSet
  | missingName (what : String)
  | badName (name : String)
  | unknownName (name : String)
  | repeatedName (name : String) (group earlier : Nat)
  | badGroupNumber
  | invalidReference (group : Nat)
  | referenceToOpenGroup
  | referenceWithinLookbehind
  | unbalancedParenthesis
  | badRange (first last : String)
  | nothingToRepeat
  | multipleRepeat
  | leastAboveMost
  | endOfPattern
  | thirdBranch
  | unknownExtension (text : String)
  | flagsUnfinished
  | flagMissing
  | flagColonMissing
  | flagUnknown
  | flagLocale
  | flagTypesConflict
  | flagGlobalOn
  | flagGlobalOff
  | flagTypeOff
  | flagOnAndOff
  | flagsMisplaced
  | badEscape (text : String)
  | danglingEscape
  | incompleteEscape (text : String)
  | missingBrace
  | unknownCharacterName (name : String)
  | octalTooLarge (text : String)
  deriving Repr, DecidableEq

/-- The wording of a problem. -/
def Problem.message : Problem → String
  | .openSubpattern => "missing ), unterminated subpattern"
  | .openComment => "missing ), unterminated comment"
  | .openName closer => s!"missing {closer}, unterminated name"
  | .openSet => "unterminated character set"
  | .missingName what => s!"missing {what}"
  | .badName name => s!"bad character in group name {Text.quoted name}"
  | .unknownName name => s!"unknown group name {Text.quoted name}"
  | .repeatedName name group earlier =>
    s!"redefinition of group name {Text.quoted name} as group {group}; was group {earlier}"
  | .badGroupNumber => "bad group number"
  | .invalidReference group => s!"invalid group reference {group}"
  | .referenceToOpenGroup => "cannot refer to an open group"
  | .referenceWithinLookbehind =>
    "cannot refer to group defined in the same lookbehind subpattern"
  | .unbalancedParenthesis => "unbalanced parenthesis"
  | .badRange first last => s!"bad character range {first}-{last}"
  | .nothingToRepeat => "nothing to repeat"
  | .multipleRepeat => "multiple repeat"
  | .leastAboveMost => "min repeat greater than max repeat"
  | .endOfPattern => "unexpected end of pattern"
  | .thirdBranch => "conditional backref with more than two branches"
  | .unknownExtension text => s!"unknown extension {text}"
  | .flagsUnfinished => "missing -, : or )"
  | .flagMissing => "missing flag"
  | .flagColonMissing => "missing :"
  | .flagUnknown => "unknown flag"
  | .flagLocale => "bad inline flags: cannot use 'L' flag with a str pattern"
  | .flagTypesConflict => "bad inline flags: flags 'a', 'u' and 'L' are incompatible"
  | .flagGlobalOn => "bad inline flags: cannot turn on global flag"
  | .flagGlobalOff => "bad inline flags: cannot turn off global flag"
  | .flagTypeOff => "bad inline flags: cannot turn off flags 'a', 'u' and 'L'"
  | .flagOnAndOff => "bad inline flags: flag turned on and off"
  | .flagsMisplaced => "global flags not at the start of the expression"
  | .badEscape text => s!"bad escape {text}"
  | .danglingEscape => "bad escape (end of pattern)"
  | .incompleteEscape text => s!"incomplete escape {text}"
  | .missingBrace => "missing \x7b"
  | .unknownCharacterName name => s!"undefined character name {Text.quoted name}"
  | .octalTooLarge text => s!"octal escape value {text} outside of range 0-0o377"

/-- A number in a pattern that is too large. -/
inductive Overflow where
  | repetitionCount
  | codePoint
  deriving Repr, DecidableEq

/-- Why a text is no pattern. -/
inductive Fault where
  | malformed (problem : Problem) (position : Nat)
  | variableLookbehind
  | repetitionRefused (greed : Greed)
  | conflictingTypes
  | countTooLong (digits : Nat)
  | overflow (number : Overflow)
  | stackExhausted
  deriving Repr, DecidableEq

/-- A fault that says something about the form of a pattern. -/
def Fault.isDefect : Fault → Bool
  | .overflow _ => false
  | .stackExhausted => false
  | _ => true

/-- A position shown to a reader, with line and column when the text has several lines. -/
def showPosition (source : List Char) (position : Nat) : String :=
  if source.contains '\n' then
    let before := source.take position
    let line := before.count '\n' + 1
    let column := (before.reverse.takeWhile (· != '\n')).length + 1
    s!" at position {position} (line {line}, column {column})"
  else s!" at position {position}"

/-- The word for a kind of repetition. -/
def Greed.operator : Greed → String
  | .greedy => "MAX_REPEAT"
  | .sparing => "MIN_REPEAT"
  | .possessive => "POSSESSIVE_REPEAT"

/-- The wording of a number that is too large. -/
def Overflow.message : Overflow → String
  | .repetitionCount => "the repetition number is too large"
  | .codePoint => "Python int too large to convert to C int"

/-- What is said about a stack that is too small. -/
def stackMessage : String := "maximum recursion depth exceeded"

/-- The wording of a fault of a pattern. -/
def Fault.message (source : String) : Fault → String
  | .malformed problem position =>
    problem.message ++ showPosition source.toList position
  | .variableLookbehind => "look-behind requires fixed-width pattern"
  | .repetitionRefused greed => s!"internal: unsupported template operator {greed.operator}"
  | .conflictingTypes => "ASCII and UNICODE flags are incompatible"
  | .countTooLong digits => Number.tooManyDigitsMessage digits
  | .overflow number => number.message
  | .stackExhausted => stackMessage

end JavadocRepair.Pattern
