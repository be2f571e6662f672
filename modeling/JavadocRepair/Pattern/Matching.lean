import JavadocRepair.Pattern.Basic

/-!
# Matching

A node is run at a state of the subject with a continuation that says whether the rest of the
pattern matches from the state reached. Alternatives are tried in the order of the pattern, the
first that lets the rest match wins, and a state that is given up takes its captures with it.

An optional iteration of a repetition that ends where the one before began is not followed by
another, so every repetition ends.
-/

namespace JavadocRepair.Pattern

/-- Where a group was last opened and last closed. -/
structure Mark where
  start : Option Nat
  stop : Option Nat
  deriving Repr, DecidableEq

/-- A place in the subject and the marks of the groups, first group first. -/
structure State where
  position : Nat
  marks : List Mark
  deriving Repr, DecidableEq

namespace State

/-- The part of the subject that a group holds, if it took part. -/
def span? (state : State) (group : Nat) : Option (Nat × Nat) :=
  match group with
  | 0 => none
  | index + 1 =>
    match state.marks[index]? with
    | some ⟨some start, some stop⟩ => if start ≤ stop then some (start, stop) else none
    | _ => none

/-- The state after a group is opened here. -/
def openGroup (state : State) (group : Nat) : State :=
  { state with
    marks := state.marks.modify (group - 1) fun mark => { mark with start := state.position } }

/-- The state after a group is closed here. -/
def closeGroup (state : State) (group : Nat) : State :=
  { state with
    marks := state.marks.modify (group - 1) fun mark => { mark with stop := state.position } }

end State

/-- What becomes of a state: the state at the end of the match, or nothing. -/
abbrev Continuation := State → Option State

/-- A word character of an alphabet stands at an index of the subject. -/
def isWordAt (subject : Array Char) (alphabet : Alphabet) (index : Nat) : Bool :=
  match subject[index]? with
  | some c => Category.word.contains alphabet c.toNat
  | none => false

/-- An anchor holds at a position. An empty subject has neither word boundaries nor places that
    are none. -/
def Anchor.holds (anchor : Anchor) (subject : Array Char) (position : Nat) : Bool :=
  let last := subject.size - 1
  let crossing (alphabet : Alphabet) :=
    (position != 0 && isWordAt subject alphabet (position - 1))
      != isWordAt subject alphabet position
  match anchor with
  | .textStart => position == 0
  | .lineStart => position == 0 || subject[position - 1]? == some '\n'
  | .textEnd => position == subject.size
  | .lastLineEnd =>
    position == subject.size || (position == last && subject[position]? == some '\n')
  | .lineEnd => position == subject.size || subject[position]? == some '\n'
  | .wordBoundary alphabet => !subject.isEmpty && crossing alphabet
  | .notWordBoundary alphabet => !subject.isEmpty && !crossing alphabet

/-- Where the characters of a set end that stand at a position, at most `most` of them. -/
def runEnd (subject : Array Char) (set : CharSet) (position : Nat) : Nat → Nat
  | 0 => position
  | most + 1 =>
    match subject[position]? with
    | some c => if set.contains c then runEnd subject set (position + 1) most else position
    | none => position

/-- The lengths that a run may have, in the order in which they are tried. -/
def runLengths (greed : Greed) (least longest : Nat) : List Nat :=
  if longest < least then []
  else match greed with
    | .greedy => (List.range' least (longest - least + 1)).reverse
    | .sparing => List.range' least (longest - least + 1)
    | .possessive => [longest]

/-- Two characters are the same, or have the same lower-case form if case is folded. -/
def sameChar (folding : Option Alphabet) (a b : Char) : Bool :=
  match folding with
  | none => a == b
  | some alphabet => alphabet.lowerCase a.toNat == alphabet.lowerCase b.toNat

/-- The same characters stand at two places of the subject. -/
def sameText (subject : Array Char) (folding : Option Alphabet) (here there : Nat) : Nat → Bool
  | 0 => true
  | count + 1 =>
    match subject[here]?, subject[there]? with
    | some a, some b =>
      sameChar folding a b && sameText subject folding (here + 1) (there + 1) count
    | _, _ => false

/-- Iterates a step a fixed number of times. -/
def iterate (step : State → Continuation → Option State) :
    Nat → State → Continuation → Option State
  | 0, state, next => next state
  | count + 1, state, next => step state fun reached => iterate step count reached next

/-- Iterates a step at most `count` times, more iterations before fewer. `previous` is where the
    iteration before began. -/
def iterateGreedy (step : State → Continuation → Option State) :
    Nat → Option Nat → State → Continuation → Option State
  | 0, _, state, next => next state
  | count + 1, previous, state, next =>
    if previous = some state.position then next state
    else
      match step state fun reached =>
          iterateGreedy step count (some state.position) reached next with
      | some final => some final
      | none => next state

/-- Iterates a step at most `count` times, fewer iterations before more. -/
def iterateSparing (step : State → Continuation → Option State) :
    Nat → Option Nat → State → Continuation → Option State
  | 0, _, state, next => next state
  | count + 1, previous, state, next =>
    match next state with
    | some final => some final
    | none =>
      if previous = some state.position then none
      else step state fun reached =>
        iterateSparing step count (some state.position) reached next

/-- Iterates a step exactly `count` times, each time keeping the first way in which it succeeds. -/
def settle (step : State → Option State) : Nat → State → Option State
  | 0, state => some state
  | count + 1, state =>
    match step state with
    | some reached => settle step count reached
    | none => none

/-- Iterates a step at most `count` times as long as it succeeds and moves on, each time keeping
    the first way in which it succeeds. -/
def settleMost (step : State → Option State) : Nat → State → State
  | 0, state => state
  | count + 1, state =>
    match step state with
    | some reached =>
      if reached.position = state.position then reached else settleMost step count reached
    | none => state

/-- How many optional iterations can make a difference: each moves on but the last. -/
def optionalIterations (subject : Array Char) (least : Nat) (most : Option Nat) (position : Nat) :
    Nat :=
  let room := subject.size - position + 1
  match most with
  | some most => min (most - least) room
  | none => room

/-- Runs a node at a state. -/
def Node.exec (subject : Array Char) : Node → State → Continuation → Option State
  | .empty, state, next => next state
  | .char set, state, next =>
    match subject[state.position]? with
    | some c => if set.contains c then next { state with position := state.position + 1 } else none
    | none => none
  | .run greed least most set, state, next =>
    let room := subject.size - state.position
    let longest := runEnd subject set state.position (min (most.getD room) room) - state.position
    (runLengths greed least longest).findSome? fun length =>
      next { state with position := state.position + length }
  | .anchor place, state, next =>
    if place.holds subject state.position then next state else none
  | .backreference index folding, state, next =>
    match state.span? index with
    | some (start, stop) =>
      if sameText subject folding state.position start (stop - start) then
        next { state with position := state.position + (stop - start) }
      else none
    | none => none
  | .group index body, state, next =>
    exec subject body (state.openGroup index) fun reached => next (reached.closeGroup index)
  | .sequence first second, state, next =>
    exec subject first state fun reached => exec subject second reached next
  | .choice first second, state, next =>
    match exec subject first state next with
    | some final => some final
    | none => exec subject second state next
  | .repetition greed least most body, state, next =>
    match greed with
    | .greedy =>
      iterate (exec subject body) least state fun reached =>
        iterateGreedy (exec subject body)
          (optionalIterations subject least most reached.position) none reached next
    | .sparing =>
      iterate (exec subject body) least state fun reached =>
        iterateSparing (exec subject body)
          (optionalIterations subject least most reached.position) none reached next
    | .possessive =>
      match settle (fun reached => exec subject body reached some) least state with
      | some reached =>
        next (settleMost (fun again => exec subject body again some)
          (optionalIterations subject least most reached.position) reached)
      | none => none
  | .atomic body, state, next =>
    match exec subject body state some with
    | some reached => next reached
    | none => none
  | .lookahead negated body, state, next =>
    match exec subject body state some with
    | some reached => if negated then none else next { reached with position := state.position }
    | none => if negated then next state else none
  | .lookbehind negated width body, state, next =>
    let before :=
      if width ≤ state.position then
        exec subject body { state with position := state.position - width } some
      else none
    match before with
    | some reached => if negated then none else next { reached with position := state.position }
    | none => if negated then next state else none
  | .conditional index present absent, state, next =>
    if (state.span? index).isSome then exec subject present state next
    else exec subject absent state next

/-- Matches a whole subject: the state in which the pattern ends together with the subject. -/
def Node.matchAll? (node : Node) (groups : Nat) (subject : Array Char) : Option State :=
  node.exec subject ⟨0, List.replicate groups ⟨none, none⟩⟩ fun reached =>
    if reached.position = subject.size then some reached else none

end JavadocRepair.Pattern
