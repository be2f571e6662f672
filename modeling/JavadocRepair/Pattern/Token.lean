import JavadocRepair.Pattern.Fault
import JavadocRepair.Pattern.Width

/-!
# Reading a pattern: tokens and state

A pattern is read token by token: a token is a character, or a backslash with the character after
it. The reader's state holds the tokens that are left and what is known about the groups opened so
far. The next token is looked at as soon as the one before is taken, so a backslash that ends the
pattern is found before anything else is said about the token in front of it.
-/

namespace JavadocRepair.Pattern

/-- A token of a pattern; `dangling` is a backslash at the end. -/
inductive Token where
  | plain (c : Char)
  | escaped (c : Char)
  | dangling
  deriving Repr, DecidableEq

namespace Token

/-- The characters of a token. -/
def chars : Token → List Char
  | plain c => [c]
  | escaped c => ['\\', c]
  | dangling => ['\\']

/-- Cuts a pattern into tokens. -/
def ofChars : List Char → List Token
  | [] => []
  | ['\\'] => [dangling]
  | '\\' :: c :: rest => escaped c :: ofChars rest
  | c :: rest => plain c :: ofChars rest

end Token

/-- The flags that hold where the reader stands. -/
structure Flags where
  foldCase : Bool
  multiline : Bool
  dotAll : Bool
  verbose : Bool
  alphabet : Alphabet
  deriving Repr, DecidableEq

/-- The alphabet in which case is folded, if it is. -/
def Flags.folding (flags : Flags) : Option Alphabet :=
  if flags.foldCase then some flags.alphabet else none

/-- The state of the reader. `widths` has an entry for each group opened so far, which is empty as
    long as the group is open. Inside a look-behind, `lookbehindGroups` is the number of groups
    opened before it. `references` are the group numbers that conditions name, each with the place
    where it is named first. The names of characters never change. -/
structure ReaderState where
  characterNamed? : String → Option Nat
  tokens : List Token
  position : Nat
  flags : Flags
  widths : List (Option Width)
  names : List (String × Nat)
  lookbehindGroups : Option Nat
  references : List (Nat × Nat)
  unicodeClasses : Bool
  noRepetitions : Bool

/-- A reader of part of a pattern. -/
abbrev Reader := StateT ReaderState (Except Fault)

namespace Reader

/-- Reports a problem a number of characters before the next token. -/
def problemBefore {α : Type} (offset : Nat) (problem : Problem) : Reader α := do
  throw (.malformed problem ((← get).position - offset))

/-- Reports a problem at a position. -/
def problemAt {α : Type} (position : Nat) (problem : Problem) : Reader α :=
  throw (.malformed problem position)

/-- Reports a problem at the next token. -/
def problem {α : Type} (problem : Problem) : Reader α :=
  problemBefore 0 problem

/-- The next token. -/
def peek : Reader (Option Token) := do
  return (← get).tokens.head?

/-- The position of the next token. -/
def position : Reader Nat := do
  return (← get).position

/-- Finds out about a backslash that ends the pattern when it comes next. -/
def checkNext : Reader Unit := do
  if (← peek) = some .dangling then problem .danglingEscape

/-- Takes the next token. -/
def take? : Reader (Option Token) := do
  let state ← get
  match state.tokens with
  | [] => return none
  | token :: rest =>
    set { state with tokens := rest, position := state.position + token.chars.length }
    checkNext
    return some token

/-- Takes the next token if it is a given character. -/
def accept (c : Char) : Reader Bool := do
  if (← peek) = some (.plain c) then
    let _ ← take?
    return true
  else return false

/-- Takes at most `count` characters of a set. -/
def takeChars (ok : Char → Bool) : Nat → Reader (List Char)
  | 0 => return []
  | count + 1 => do
    match ← peek with
    | some (.plain c) =>
      if ok c then
        let _ ← take?
        return c :: (← takeChars ok count)
      else return []
    | _ => return []

/-- Takes the characters of a set that come next. -/
def takeAll (ok : Char → Bool) : Reader (List Char) := do
  takeChars ok (← get).tokens.length

/-- Takes everything up to a closing character, which is taken too, but at most `fuel` tokens. -/
def takeUntil (closer : Char) (what : String) (taken : List Char) : Nat → Reader (List Char)
  | 0 => problem .endOfPattern
  | fuel + 1 => do
    match ← take? with
    | none =>
      if taken.isEmpty then problem (.missingName what)
      else problemBefore taken.length (.openName closer)
    | some token =>
      if token = .plain closer then
        if taken.isEmpty then problemBefore 1 (.missingName what) else return taken
      else takeUntil closer what (taken ++ token.chars) fuel

/-- Takes a name that a character closes. -/
def takeName (closer : Char) (what : String) : Reader (List Char) := do
  takeUntil closer what [] ((← get).tokens.length + 1)

/-- The number of groups opened so far. -/
def groupCount : Reader Nat := do
  return (← get).widths.length

/-- A group is known and closed. -/
def isClosed (group : Nat) : Reader Bool := do
  match group with
  | 0 => return false
  | index + 1 => return ((← get).widths[index]?.join).isSome

/-- Inside a look-behind, only groups closed before it may be referred to. -/
def checkLookbehind (group : Nat) : Reader Unit := do
  match (← get).lookbehindGroups with
  | none => return
  | some before =>
    if !(← isClosed group) then problem .referenceToOpenGroup
    if before < group then problem .referenceWithinLookbehind

/-- The number of the group with a name. -/
def groupNamed? (name : String) : Reader (Option Nat) := do
  return (← get).names.lookup name

/-- Opens the next group; the name, if it has one, must be new. -/
def openGroup (name : Option String) : Reader Nat := do
  let state ← get
  let index := state.widths.length + 1
  match name with
  | none => set { state with widths := state.widths ++ [none] }
  | some name =>
    match state.names.lookup name with
    | some earlier => problemBefore (name.length + 1) (.repeatedName name index earlier)
    | none =>
      set { state with
        widths := state.widths ++ [none], names := state.names ++ [(name, index)] }
  return index

/-- The widths of the groups closed so far. -/
def groupWidth : Reader (Nat → Width) := do
  let widths := (← get).widths
  return fun group =>
    match group with
    | 0 => ⟨0, 0⟩
    | index + 1 => (widths[index]?.join).getD ⟨0, 0⟩

/-- Closes a group. -/
def closeGroup (index : Nat) (body : Node) : Reader Unit := do
  let width := body.width (← groupWidth)
  modify fun state => { state with widths := state.widths.set (index - 1) (some width) }

end Reader

end JavadocRepair.Pattern
