import JavadocRepair.Matcher.Basic

/-!
# The built-in matchers

Two tools print the diagnostic that an at-clause should be preceded with an empty line, each in a
format of its own:

    [checkstyle] [ERROR] PATH:LINE: Javadoc at-clause '@NAME' should be … line. [JavadocParagraph]
    [ERROR] PATH:[LINE] (javadoc) JavadocParagraph: Javadoc at-clause '@NAME' should be … line.

Their patterns are given as trees beside their texts, and reading a text gives its tree. The full
stop behind "line" is a bare dot, so any character may stand in its place.
-/

namespace JavadocRepair

namespace Pattern

/-- The nodes that match the characters of a text one after the other. -/
def literal (text : String) : List Node :=
  text.toList.map fun c => .char ⟨[.point c.toNat], false, none⟩

/-- Any character but a line feed. -/
def anyChar : CharSet := ⟨[.point 10], true, none⟩

/-- A group of any characters but line feeds. -/
def pathNode (index : Nat) : Node := .group index (.run .greedy 0 none anyChar)

/-- A group of digits, at least one. -/
def digitsNode (index : Nat) : Node :=
  .group index (.run .greedy 1 none (.ofCategory .digit .ascii false))

/-- The diagnostic without what stands before and behind it. -/
def diagnostic : List Node :=
  literal "Javadoc at-clause '@" ++ [.run .greedy 1 none (.ofCategory .word .ascii false)]
    ++ literal "' should be preceded with an empty line" ++ [.char anyChar]

/-- The format of the stand-alone tool. -/
def checkstyle : Pattern where
  source :=
    "\\[checkstyle\\] \\[ERROR\\] (.*):(\\d+): Javadoc at-clause '@\\w+' "
      ++ "should be preceded with an empty line. \\[JavadocParagraph\\]"
  root :=
    .sequenceOf (literal "[checkstyle] [ERROR] " ++ pathNode 1 :: literal ":" ++ digitsNode 2
      :: literal ": " ++ diagnostic ++ literal " [JavadocParagraph]")
  groups := 2
  names := []

/-- The format of the build plug-in. -/
def sevntu : Pattern where
  source :=
    "\\[ERROR\\] (.*):\\[(\\d+)\\] \\(javadoc\\) JavadocParagraph: Javadoc at-clause '@\\w+' "
      ++ "should be preceded with an empty line."
  root :=
    .sequenceOf (literal "[ERROR] " ++ pathNode 1 :: literal ":[" ++ digitsNode 2
      :: literal "] (javadoc) JavadocParagraph: " ++ diagnostic)
  groups := 2
  names := []

theorem read_eq_ok_of_toOption {host : Host} {source : String} {pattern : Pattern}
    (found : (read host source).toOption = some pattern) :
    read host source = .ok pattern := by
  cases outcome : read host source with
  | error fault =>
    rw [outcome] at found
    cases found
  | ok other =>
    rw [outcome] at found
    cases found
    rfl

/-- The text of the stand-alone tool's format spells its tree. -/
theorem read_checkstyle : read .ascii checkstyle.source = .ok checkstyle :=
  read_eq_ok_of_toOption (by decide +kernel)

/-- The text of the build plug-in's format spells its tree. -/
theorem read_sevntu : read .ascii sevntu.source = .ok sevntu :=
  read_eq_ok_of_toOption (by decide +kernel)

end Pattern

namespace Matcher

/-- The matcher of the stand-alone tool. -/
def checkstyle : Matcher :=
  ⟨"checkstyle", Pattern.checkstyle, .number 1, .number 2, rfl, rfl⟩

/-- The matcher of the build plug-in. -/
def sevntu : Matcher :=
  ⟨"sevntu", Pattern.sevntu, .number 1, .number 2, rfl, rfl⟩

/-- The matchers that are used when no others are named. -/
def builtin : List Matcher := [checkstyle, sevntu]

end Matcher

end JavadocRepair
