import JavadocRepair.Pattern.Token
import JavadocRepair.Text.Identifier

/-!
# Escapes, character sets, flags and counts

The parts of a pattern that hold no other patterns: what stands behind a backslash, between square
brackets, between a question mark and a colon or parenthesis, and between braces.
-/

namespace JavadocRepair.Pattern

/-- A hexadecimal digit. -/
def isHexDigit (c : Char) : Bool :=
  ('0' ≤ c && c ≤ '9') || ('a' ≤ c && c ≤ 'f') || ('A' ≤ c && c ≤ 'F')

/-- An octal digit. -/
def isOctalDigit (c : Char) : Bool :=
  '0' ≤ c && c ≤ '7'

/-- The value of a hexadecimal digit. -/
def hexDigitValue (c : Char) : Nat :=
  if c ≤ '9' then c.toNat - 48 else if c ≤ 'F' then c.toNat - 55 else c.toNat - 87

/-- The value of digits in a base. -/
def digitsInBase (base : Nat) (digits : List Char) : Nat :=
  digits.foldl (fun n c => n * base + hexDigitValue c) 0

/-- The set of one code point. -/
def CharSet.ofPoint (flags : Flags) (n : Nat) : CharSet :=
  ⟨[.point n], false, flags.folding⟩

/-- The set of a category or of what is outside of it. -/
def CharSet.ofCategory (kind : Category) (alphabet : Alphabet) (negated : Bool) : CharSet :=
  ⟨[.category kind alphabet negated], false, none⟩

/-- The control character that a letter names behind a backslash. -/
def controlEscape? : Char → Option Nat
  | 'a' => some 7
  | 'f' => some 12
  | 'n' => some 10
  | 'r' => some 13
  | 't' => some 9
  | 'v' => some 11
  | '\\' => some 92
  | _ => none

/-- The category that a letter names behind a backslash; a capital names its complement. -/
def categoryEscape? : Char → Option (Category × Bool)
  | 'd' => some (.digit, false)
  | 'D' => some (.digit, true)
  | 's' => some (.space, false)
  | 'S' => some (.space, true)
  | 'w' => some (.word, false)
  | 'W' => some (.word, true)
  | _ => none

/-- The anchor that a letter names behind a backslash. -/
def anchorEscape? (alphabet : Alphabet) : Char → Option Anchor
  | 'A' => some .textStart
  | 'b' => some (.wordBoundary alphabet)
  | 'B' => some (.notWordBoundary alphabet)
  | 'Z' => some .textEnd
  | _ => none

namespace Reader

/-- The code point of an escape with a fixed number of hexadecimal digits. -/
def hexEscape (letter : Char) (count : Nat) : Reader Nat := do
  let digits ← takeChars isHexDigit count
  let text := '\\' :: letter :: digits
  if digits.length ≠ count then
    problemBefore text.length (.incompleteEscape (String.ofList text))
  let n := digitsInBase 16 digits
  if 0x7fffffff < n then throw (.overflow .codePoint)
  if 0x10ffff < n then problemBefore text.length (.badEscape (String.ofList text))
  return n

/-- The code point of a character by its name. -/
def namedEscape : Reader Nat := do
  if !(← accept '\x7b') then problem .missingBrace
  let name ← takeName '\x7d' "character name"
  match (← get).characterNamed? (String.ofList name) with
  | some n => return n
  | none => problemBefore (name.length + 4) (.unknownCharacterName (String.ofList name))

/-- The code point of an octal escape whose digits have been taken. -/
def octalEscape (digits : List Char) : Reader Nat := do
  let n := digitsInBase 8 digits
  let text := '\\' :: digits
  if 0o377 < n then problemBefore text.length (.octalTooLarge (String.ofList text))
  return n

/-- The code point of an escape that has the same meaning inside and outside of a character set,
    where an escaped letter without a meaning is refused. -/
def pointEscape (c : Char) : Reader Nat := do
  match c with
  | 'x' => hexEscape c 2
  | 'u' => hexEscape c 4
  | 'U' => hexEscape c 8
  | 'N' => namedEscape
  | _ =>
    if c.isAlphanum then problemBefore 2 (.badEscape (String.ofList ['\\', c]))
    return c.toNat

/-- A reference to a group by its number, whose digits have been taken. -/
def numberedReference (digits : List Char) : Reader Node := do
  let group := Number.digitsValue digits
  if group ≤ (← groupCount) then
    if !(← isClosed group) then problemBefore (digits.length + 1) .referenceToOpenGroup
    checkLookbehind group
    return .backreference group (← get).flags.folding
  problemBefore digits.length (.invalidReference group)

/-- What an escape that begins with a digit other than zero means: three octal digits are a
    character, and one or two digits refer to a group. -/
def digitEscape (c : Char) : Reader Node := do
  let second ← takeChars Text.isAsciiDigit 1
  if isOctalDigit c && !second.isEmpty && second.all isOctalDigit then
    let third ← takeChars isOctalDigit 1
    if !third.isEmpty then
      let n ← octalEscape (c :: (second ++ third))
      return .char (.ofPoint (← get).flags n)
  numberedReference (c :: second)

/-- A member of a character set that is written as an escape. -/
def setEscape (c : Char) : Reader Member := do
  if c = 'b' then return .point 8
  match controlEscape? c, categoryEscape? c with
  | some n, _ => return .point n
  | none, some (kind, negated) => return .category kind (← get).flags.alphabet negated
  | none, none =>
    if isOctalDigit c then
      let more ← takeChars isOctalDigit 2
      return .point (← octalEscape (c :: more))
    return .point (← pointEscape c)

/-- A member of a character set that a token opens. -/
def setMember : Token → Reader Member
  | .plain c => return .point c.toNat
  | .escaped c => setEscape c
  | .dangling => problem .danglingEscape

/-- The members of a character set up to its closing bracket, behind those already read. `start` is
    the position of the opening bracket. -/
def setMembers (start : Nat) (members : List Member) : Nat → Reader (List Member)
  | 0 => problemAt start .openSet
  | fuel + 1 => do
    let some first ← take? | problemAt start .openSet
    if first = .plain ']' && !members.isEmpty then return members
    let low ← setMember first
    if !(← accept '-') then return ← setMembers start (members ++ [low]) fuel
    let some last ← take? | problemAt start .openSet
    if last = .plain ']' then return members ++ [low, .point 45]
    let high ← setMember last
    match low, high with
    | .point a, .point b =>
      if a ≤ b then return ← setMembers start (members ++ [.range a b]) fuel
    | _, _ => pure ()
    problemBefore (first.chars.length + 1 + last.chars.length)
      (.badRange (String.ofList first.chars) (String.ofList last.chars))

/-- A character set whose opening bracket has been taken. -/
def charSet : Reader CharSet := do
  let start := (← position) - 1
  let negated ← accept '^'
  let members ← setMembers start [] ((← get).tokens.length + 1)
  return ⟨members, negated, (← get).flags.folding⟩

/-- A letter that stands for a flag. -/
def isFlag (c : Char) : Bool :=
  "iLmsxatu".toList.contains c

/-- A flag that chooses a kind of character classes. -/
def isTypeFlag (c : Char) : Bool :=
  c = 'a' || c = 'u' || c = 'L'

/-- The problem with a token that is no flag: a letter is an unknown one. -/
def notFlag {α : Type} (token : Token) (otherwise : Problem) : Reader α :=
  let unknown :=
    match token with
    | .plain c => Text.isLetter c
    | _ => false
  problemBefore token.chars.length (if unknown then .flagUnknown else otherwise)

/-- The flags to turn on, of which the first has been taken, and the character after them. -/
def flagsOn (c : Char) (on : List Char) : Nat → Reader (List Char × Char)
  | 0 => problem .flagsUnfinished
  | fuel + 1 => do
    if c = 'L' then problem .flagLocale
    if isTypeFlag c && on.any (fun other => isTypeFlag other && other ≠ c) then
      problem .flagTypesConflict
    let some token ← take? | problem .flagsUnfinished
    match token with
    | .plain next =>
      if next = ')' || next = '-' || next = ':' then return (c :: on, next)
      if isFlag next then return ← flagsOn next (c :: on) fuel
      notFlag token .flagsUnfinished
    | _ => notFlag token .flagsUnfinished

/-- The flags to turn off, of which the first has been taken. -/
def flagsOff (c : Char) (off : List Char) : Nat → Reader (List Char)
  | 0 => problem .flagColonMissing
  | fuel + 1 => do
    if isTypeFlag c then problem .flagTypeOff
    let some token ← take? | problem .flagColonMissing
    match token with
    | .plain next =>
      if next = ':' then return c :: off
      if isFlag next then return ← flagsOff next (c :: off) fuel
      notFlag token .flagColonMissing
    | _ => notFlag token .flagColonMissing

/-- What a list of flags is for: the whole pattern, or the group that follows. -/
inductive FlagScope where
  | everywhere (on : List Char)
  | inside (on off : List Char)

/-- The flags of a group, of which the first character has been taken. -/
def flagScope (c : Char) : Reader FlagScope := do
  let fuel := (← get).tokens.length + 1
  let (on, closer) ← if c = '-' then pure ([], '-') else flagsOn c [] fuel
  if closer = ')' then return .everywhere on
  if on.contains 't' then problemBefore 1 .flagGlobalOn
  if closer = ':' then return .inside on []
  let some token ← take? | problem .flagMissing
  let first ←
    match token with
    | .plain first => if isFlag first then pure first else notFlag token .flagMissing
    | _ => notFlag token .flagMissing
  let off ← flagsOff first [] fuel
  if off.contains 't' then problemBefore 1 .flagGlobalOff
  if on.any off.contains then problemBefore 1 .flagOnAndOff
  return .inside on off

/-- A repetition count. -/
def countOf (digits : List Char) : Reader Nat := do
  if Number.maxDigits < digits.length then throw (.countTooLong digits.length)
  let n := Number.digitsValue digits
  if unbounded ≤ n then throw (.overflow .repetitionCount)
  return n

/-- The counts between braces of which the first has been taken, or nothing if what follows is no
    count; then no token is taken. -/
def braces : Reader (Option (Nat × Option Nat)) := do
  let before ← get
  let low ← takeAll Text.isAsciiDigit
  let high ← if ← accept ',' then some <$> takeAll Text.isAsciiDigit else pure none
  let closed ← accept '\x7d'
  if !closed || (high.isNone && low.isEmpty) then
    set before
    return none
  let least ← if low.isEmpty then pure 0 else countOf low
  match high.getD low with
  | [] => return some (least, none)
  | digits =>
    let most ← countOf digits
    if most < least then problemAt before.position .leastAboveMost
    return some (least, some most)

end Reader

/-- The flags after some are turned on and off. The alphabet is chosen by turning its flag on. -/
def Flags.change (flags : Flags) (on off : List Char) : Flags :=
  let value (c : Char) (old : Bool) := (old || on.contains c) && !off.contains c
  let alphabet :=
    if on.contains 'u' then .unicode else if on.contains 'a' then .ascii else flags.alphabet
  ⟨value 'i' flags.foldCase, value 'm' flags.multiline, value 's' flags.dotAll,
    value 'x' flags.verbose, alphabet⟩

end JavadocRepair.Pattern
