import JavadocRepair.Host
import JavadocRepair.Pattern.Escape
import JavadocRepair.Pattern.Matching

/-!
# Reading patterns

The form of a pattern: branches between bars, each a sequence of items that may be repeated. `read`
gives the compiled pattern or the first fault. Reading goes on from left to right, so of two faults
the left one is reported, apart from those that need the whole pattern: flags that contradict each
other, a parenthesis that closes nothing, a condition on a group that never came, and what is wrong
with the tree, in this order.
-/

namespace JavadocRepair

/-- A pattern that was read without fault: its text, its tree, the number of its groups and the
    names that some of them have, in the order of the groups. -/
structure Pattern where
  source : String
  root : Pattern.Node
  groups : Nat
  names : List (String × Nat)
  deriving Repr, DecidableEq

namespace Pattern

/-- The first thing wrong with a tree, outermost and leftmost first: a look-behind has to have a
    fixed width, and there may be no repetition where `noRepetitions` says so. -/
def Node.fault? (noRepetitions : Bool) (groups : Nat → Width) : Node → Option Fault
  | .empty | .char _ | .anchor _ | .backreference _ _ => none
  | .run greed _ _ _ => if noRepetitions then some (.repetitionRefused greed) else none
  | .repetition greed _ _ body =>
    if noRepetitions then some (.repetitionRefused greed) else body.fault? noRepetitions groups
  | .group _ body | .atomic body | .lookahead _ body => body.fault? noRepetitions groups
  | .lookbehind _ _ body =>
    let width := body.width groups
    if width.low ≠ width.high then some .variableLookbehind
    else body.fault? noRepetitions groups
  | .sequence first second | .choice first second | .conditional _ first second =>
    (first.fault? noRepetitions groups).or (second.fault? noRepetitions groups)

/-- What an item is, as far as a repetition behind it cares: an anchor and a repetition cannot be
    repeated. -/
inductive ItemKind where
  | ordinary
  | anchor
  | repeated
  deriving DecidableEq

/-- An item of a sequence. -/
structure Item where
  node : Node
  kind : ItemKind

/-- The node of items of which the last comes first. -/
def Node.ofItems (items : List Item) : Node :=
  .sequenceOf (items.reverse.map (·.node))

namespace Reader

/-- The item that an escape outside of a character set stands for. -/
def escapeItem (c : Char) : Reader Item := do
  let flags := (← get).flags
  match anchorEscape? flags.alphabet c, categoryEscape? c, controlEscape? c with
  | some place, _, _ => return ⟨.anchor place, .anchor⟩
  | _, some (kind, negated), _ =>
    return ⟨.char (.ofCategory kind flags.alphabet negated), .ordinary⟩
  | _, _, some n => return ⟨.char (.ofPoint flags n), .ordinary⟩
  | none, none, none =>
    if c = '0' then
      let digits ← takeChars isOctalDigit 2
      return ⟨.char (.ofPoint flags (← octalEscape (c :: digits))), .ordinary⟩
    if Text.isAsciiDigit c then return ⟨← digitEscape c, .ordinary⟩
    return ⟨.char (.ofPoint flags (← pointEscape c)), .ordinary⟩

/-- The item that a character stands for which opens no group, set, escape or repetition. -/
def plainItem (flags : Flags) : Char → Item
  | '.' => ⟨.char ⟨if flags.dotAll then [] else [.point 10], true, none⟩, .ordinary⟩
  | '^' => ⟨.anchor (if flags.multiline then .lineStart else .textStart), .anchor⟩
  | '$' => ⟨.anchor (if flags.multiline then .lineEnd else .lastLineEnd), .anchor⟩
  | c => ⟨.char (.ofPoint flags c.toNat), .ordinary⟩

/-- The counts of a repetition that a character opens, or nothing if it stands for itself. -/
def counts? : Char → Reader (Option (Nat × Option Nat))
  | '?' => return some (0, some 1)
  | '*' => return some (0, none)
  | '+' => return some (1, none)
  | '\x7b' => braces
  | _ => return none

/-- The mark behind a repetition that says in which order it is tried. -/
def greed : Reader Greed := do
  if ← accept '?' then return .sparing
  if ← accept '+' then return .possessive
  return .greedy

/-- Repeats the last item. `start` is where the repetition is written. -/
def repeatLast (start least : Nat) (most : Option Nat) (items : List Item) :
    Reader (List Item) := do
  match items with
  | [] => problemAt start .nothingToRepeat
  | item :: rest =>
    if item.kind = .anchor then problemAt start .nothingToRepeat
    if item.kind = .repeated then problemAt start .multipleRepeat
    return ⟨.repeated (← greed) least most item.node, .repeated⟩ :: rest

/-- Takes a comment of a verbose pattern, which ends with the line. -/
def skipLine : Nat → Reader Unit
  | 0 => return
  | fuel + 1 => do
    match ← take? with
    | none => return
    | some (.plain '\n') => return
    | some _ => skipLine fuel

/-- Takes a comment group. -/
def skipComment (start : Nat) : Nat → Reader Unit
  | 0 => problemAt start .openComment
  | fuel + 1 => do
    match ← take? with
    | none => problemAt start .openComment
    | some (.plain ')') => return
    | some _ => skipComment start fuel

/-- A name of a group, which a character closes. -/
def groupName (closer : Char) : Reader (List Char) := do
  let name ← takeName closer "group name"
  if !Text.isIdentifier name then
    problemBefore (name.length + 1) (.badName (String.ofList name))
  return name

/-- A reference to a group by name. -/
def namedReference : Reader Node := do
  let name ← groupName ')'
  match ← groupNamed? (String.ofList name) with
  | none => problemBefore (name.length + 1) (.unknownName (String.ofList name))
  | some group =>
    if !(← isClosed group) then problemBefore (name.length + 1) .referenceToOpenGroup
    checkLookbehind group
    return .backreference group (← get).flags.folding

/-- The greatest number of groups. -/
def maxGroups : Nat := 1073741823

/-- The group that a condition names, by its name or by its number. A number may belong to a group
    that comes later. -/
def conditionGroup : Reader Nat := do
  let name ← takeName ')' "group name"
  let offset := name.length + 1
  let group ←
    if Text.isIdentifier name then
      match ← groupNamed? (String.ofList name) with
      | none => problemBefore offset (.unknownName (String.ofList name))
      | some group => pure group
    else
      match Number.readInteger? Text.isWhiteSpace Text.digitValue? name with
      | some (.ofNat group) =>
        if group = 0 then problemBefore offset .badGroupNumber
        if maxGroups ≤ group then problemBefore offset (.invalidReference group)
        let place := (← position) - offset
        modify fun state =>
          if (state.references.lookup group).isSome then state
          else { state with references := state.references ++ [(group, place)] }
        pure group
      | _ => problemBefore offset (.badName (String.ofList name))
  checkLookbehind group
  return group

/-- Takes the parenthesis that closes what was opened at `start`. -/
def closeParenthesis (start : Nat) : Reader Unit := do
  if !(← accept ')') then problemAt start .openSubpattern

/-- Reads with other flags and puts the old ones back. -/
def withFlags {α : Type} (flags : Flags) (reader : Reader α) : Reader α := do
  let old := (← get).flags
  modify fun state => { state with flags := flags }
  let value ← reader
  modify fun state => { state with flags := old }
  return value

/-- Reads the inside of a look-behind, of which the outermost one fixes the groups that may be
    referred to. -/
def insideLookbehind {α : Type} (reader : Reader α) : Reader α := do
  let old := (← get).lookbehindGroups
  modify fun state =>
    { state with lookbehindGroups := old.or (some state.widths.length) }
  let value ← reader
  modify fun state => { state with lookbehindGroups := old }
  return value

/-- What stands between a parenthesis that has been taken and what it encloses. -/
inductive Opening where
  | capture (name : Option String)
  | enclose (flags : Flags)
  | atomic
  | look (behind negated : Bool)
  | condition (group : Nat)
  | reference (node : Node)
  | comment
  | flags (on : List Char)

/-- Reads the beginning of a group whose parenthesis stands at `start`. -/
def opening (start : Nat) : Reader Opening := do
  if !(← accept '?') then return .capture none
  let some token ← take? | problem .endOfPattern
  match token with
  | .plain 'P' =>
    if ← accept '<' then return .capture (some (String.ofList (← groupName '>')))
    if ← accept '=' then return .reference (← namedReference)
    let some next ← take? | problem .endOfPattern
    problemBefore (next.chars.length + 2)
      (.unknownExtension (String.ofList ('?' :: 'P' :: next.chars)))
  | .plain ':' => return .enclose (← get).flags
  | .plain '#' =>
    skipComment start ((← get).tokens.length + 1)
    return .comment
  | .plain '=' => return .look false false
  | .plain '!' => return .look false true
  | .plain '<' =>
    let some next ← take? | problem .endOfPattern
    if next = .plain '=' then return .look true false
    if next = .plain '!' then return .look true true
    problemBefore (next.chars.length + 2)
      (.unknownExtension (String.ofList ('?' :: '<' :: next.chars)))
  | .plain '(' => return .condition (← conditionGroup)
  | .plain '>' => return .atomic
  | .plain c =>
    if isFlag c || c = '-' then
      match ← flagScope c with
      | .everywhere on => return .flags on
      | .inside on off => return .enclose ((← get).flags.change on off)
    problemBefore 2 (.unknownExtension (String.ofList ['?', c]))
  | other =>
    problemBefore (other.chars.length + 1)
      (.unknownExtension (String.ofList ('?' :: other.chars)))

/-- Flags for the whole pattern, which nothing may stand in front of. -/
def setFlags (start : Nat) (atStart : Bool) (on : List Char) : Reader Unit := do
  if !atStart then problemAt start .flagsMisplaced
  modify fun state =>
    { state with
      flags := state.flags.change on []
      unicodeClasses := state.unicodeClasses || on.contains 'u'
      noRepetitions := state.noRepetitions || on.contains 't' }

mutual

/-- Branches between bars. Only the first branch of a whole pattern may begin with flags for all of
    it. -/
def branches (whole : Bool) : Nat → Reader Node
  | 0 => problem .endOfPattern
  | fuel + 1 => do
    let first ← items whole [] fuel
    if ← accept '|' then return .choice first (← branches false fuel)
    return first

/-- The items of a branch behind those already read, of which the last comes first. -/
def items (whole : Bool) (done : List Item) : Nat → Reader Node
  | 0 => problem .endOfPattern
  | fuel + 1 => do
    match ← peek with
    | none => return .ofItems done
    | some (.plain '|') => return .ofItems done
    | some (.plain ')') => return .ofItems done
    | some token =>
      let start ← position
      let _ ← take?
      let flags := (← get).flags
      match token with
      | .dangling => problemAt start .danglingEscape
      | .escaped c =>
        let item ← escapeItem c
        items whole (item :: done) fuel
      | .plain c =>
        if flags.verbose && " \t\n\r\x0b\x0c".toList.contains c then items whole done fuel
        else if flags.verbose && c = '#' then
          skipLine ((← get).tokens.length + 1)
          items whole done fuel
        else if c = '[' then
          let set ← charSet
          items whole (⟨.char set, .ordinary⟩ :: done) fuel
        else if c = '(' then
          match ← opening start with
          | .comment => items whole done fuel
          | .flags on =>
            setFlags start (whole && done.isEmpty) on
            items whole done fuel
          | .reference node => items whole (⟨node, .ordinary⟩ :: done) fuel
          | .capture name =>
            let index ← openGroup name
            let body ← branches false fuel
            closeParenthesis start
            closeGroup index body
            items whole (⟨.group index body, .ordinary⟩ :: done) fuel
          | .enclose inner =>
            let body ← withFlags inner (branches false fuel)
            closeParenthesis start
            items whole (⟨body, .ordinary⟩ :: done) fuel
          | .atomic =>
            let body ← branches false fuel
            closeParenthesis start
            items whole (⟨.atomic body, .ordinary⟩ :: done) fuel
          | .look false negated =>
            let body ← branches false fuel
            closeParenthesis start
            items whole (⟨.lookahead negated body, .ordinary⟩ :: done) fuel
          | .look true negated =>
            let body ← insideLookbehind (branches false fuel)
            closeParenthesis start
            let width := (body.width (← groupWidth)).low
            items whole (⟨.lookbehind negated width body, .ordinary⟩ :: done) fuel
          | .condition group =>
            let present ← items false [] fuel
            let absent ←
              if ← accept '|' then
                let absent ← items false [] fuel
                if (← peek) = some (.plain '|') then problem .thirdBranch
                pure absent
              else pure Node.empty
            closeParenthesis start
            items whole (⟨.conditional group present absent, .ordinary⟩ :: done) fuel
        else if "?*+\x7b".toList.contains c then
          match ← counts? c with
          | some (least, most) => items whole (← repeatLast start least most done) fuel
          | none => items whole (plainItem flags c :: done) fuel
        else items whole (plainItem flags c :: done) fuel

end

/-- Reads a whole pattern. -/
def whole : Reader (Node × Nat × List (String × Nat)) := do
  checkNext
  let root ← branches true (4 * ((← get).tokens.length + 1))
  let state ← get
  if state.unicodeClasses then throw .conflictingTypes
  if !state.tokens.isEmpty then problem .unbalancedParenthesis
  match state.references.find? fun reference => state.widths.length < reference.1 with
  | some (group, place) => problemAt place (.invalidReference group)
  | none => pure ()
  match root.fault? state.noRepetitions (← groupWidth) with
  | some fault => throw fault
  | none => pure ()
  return (root, state.widths.length, state.names)

end Reader

/-- The state in which the reading of a pattern begins. -/
def ReaderState.initial (characterNamed? : String → Option Nat) (source : String) : ReaderState :=
  ⟨characterNamed?, Token.ofChars source.toList, 0, ⟨false, false, false, false, .ascii⟩, [], [],
    none, [], false, false⟩

/-- Reads a pattern, if the stack is large enough for it. -/
def read (host : Host) (source : String) : Except Fault Pattern :=
  if !host.canRead source then .error .stackExhausted
  else
    match Reader.whole.run (.initial host.characterNamed? source) with
    | .error fault => .error fault
    | .ok ((root, groups, names), _) => .ok ⟨source, root, groups, names⟩

end Pattern

end JavadocRepair
