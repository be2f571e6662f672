import Mathlib
import JavadocRepair.Proofs.Pattern.Progress

/-!
# What readers leave and where they fail

A reader that is given a state reached from another leaves a state that is reached from it, and what
it reports is founded in the tokens from there on. Each reader has a specification of this form, and
those that call it rely on nothing else; only the readers that take single tokens, look at the state
or open a group are described exactly. Thus an overflow is followed from the numeral where it arises
up to the whole pattern, and so are the groups that are counted and named.
-/

set_option mvcgen.warning false

open Std.Do

namespace JavadocRepair.Pattern

namespace Reader

/-- Assertions about readers are about their states and about the faults that they end with. -/
abbrev Shape : PostShape := .arg ReaderState (.except Fault .pure)

variable {α : Type} (tokens : List Token) (origin state : ReaderState)

/-- A reader that begins in a state reached from another leaves one that is reached from it, and its
    faults are founded in the tokens from there on. -/
abbrev Keeps (reader : Reader α) : Prop :=
  ⦃fun before => ⌜origin.Reaches before⌝⦄ reader
  ⦃post⟨fun _ after => ⌜origin.Reaches after⌝, fun fault => ⌜fault.Founded origin.tokens⌝⟩⦄

/-- The same for a reader that begins behind a token that was taken. -/
abbrev KeepsBehind (token : Token) (reader : Reader α) : Prop :=
  ⦃fun before => ⌜origin.Behind token before⌝⦄ reader
  ⦃post⟨fun _ after => ⌜origin.Reaches after⌝, fun fault => ⌜fault.Founded origin.tokens⌝⟩⦄

/-- A reader that only looks at the state. -/
abbrev Looks (reader : Reader α) : Prop :=
  ⦃fun before => ⌜before = state⌝⦄ reader
  ⦃post⟨fun _ after => ⌜after = state⌝, fun fault => ⌜fault.Founded tokens⌝⟩⦄

/-! ## Faults -/

@[spec high]
theorem throw_spec (fault : Fault) (Q : PostCond α Shape) :
    ⦃fun _ => Q.2.1 fault⦄ (throw fault : Reader α) ⦃Q⦄ := by
  intro state holds
  exact holds

@[spec]
theorem problemBefore_spec (offset : Nat) (problem : Problem) (Q : α → Assertion Shape) :
    ⦃⌜True⌝⦄ (problemBefore offset problem : Reader α)
    ⦃post⟨Q, fun fault => ⌜fault.Founded tokens⌝⟩⦄ := by
  mvcgen [problemBefore]
  exact .inl rfl

@[spec]
theorem problemAt_spec (position : Nat) (problem : Problem) (Q : α → Assertion Shape) :
    ⦃⌜True⌝⦄ (problemAt position problem : Reader α)
    ⦃post⟨Q, fun fault => ⌜fault.Founded tokens⌝⟩⦄ := by
  mvcgen [problemAt]
  exact .inl rfl

@[spec]
theorem problem_spec (problem : Problem) (Q : α → Assertion Shape) :
    ⦃⌜True⌝⦄ (Reader.problem problem : Reader α)
    ⦃post⟨Q, fun fault => ⌜fault.Founded tokens⌝⟩⦄ := by
  mvcgen [Reader.problem]

@[spec]
theorem notFlag_spec (token : Token) (otherwise : Problem) (Q : α → Assertion Shape) :
    ⦃⌜True⌝⦄ (notFlag token otherwise : Reader α)
    ⦃post⟨Q, fun fault => ⌜fault.Founded tokens⌝⟩⦄ := by
  mvcgen [notFlag]

/-! ## Tokens -/

@[spec]
theorem peek_spec (Q : PostCond (Option Token) Shape) :
    ⦃fun before => Q.1 before.tokens.head? before⦄ peek ⦃Q⦄ := by
  mvcgen [peek]

@[spec]
theorem position_spec (Q : PostCond Nat Shape) :
    ⦃fun before => Q.1 before.position before⦄ position ⦃Q⦄ := by
  mvcgen [position]

@[spec]
theorem checkNext_spec : Looks tokens state checkNext := by
  mvcgen [checkNext]

@[spec]
theorem take?_spec :
    ⦃fun before => ⌜before = state⌝⦄ take?
    ⦃post⟨fun taken after => ⌜taken = state.tokens.head? ∧
        match taken with
        | some token => state.Takes [token] after
        | none => after = state⌝,
      fun fault => ⌜fault.Founded tokens⌝⟩⦄ := by
  mvcgen [take?]
  all_goals grind [ReaderState.Takes]

@[spec]
theorem accept_spec (c : Char) :
    ⦃fun before => ⌜before = state⌝⦄ accept c
    ⦃post⟨fun accepted after =>
        ⌜if accepted then state.Takes [.plain c] after else after = state⌝,
      fun fault => ⌜fault.Founded tokens⌝⟩⦄ := by
  mvcgen [accept]
  all_goals grind

@[spec]
theorem takeChars_spec (ok : Char → Bool) (count : Nat) :
    ⦃fun before => ⌜before = state⌝⦄ takeChars ok count
    ⦃post⟨fun taken after =>
        ⌜state.Takes (taken.map .plain) after ∧ ∀ c ∈ taken, ok c = true⌝,
      fun fault => ⌜fault.Founded tokens⌝⟩⦄ := by
  induction count generalizing state with
  | zero =>
    mvcgen [takeChars]
    all_goals grind
  | succ count ih =>
    mvcgen [takeChars, ih]
    all_goals grind

@[spec]
theorem takeAll_spec (ok : Char → Bool) :
    ⦃fun before => ⌜before = state⌝⦄ takeAll ok
    ⦃post⟨fun taken after =>
        ⌜state.Takes (taken.map .plain) after ∧ ∀ c ∈ taken, ok c = true⌝,
      fun fault => ⌜fault.Founded tokens⌝⟩⦄ := by
  mvcgen [takeAll]

@[spec]
theorem takeUntil_spec (closer : Char) (what : String) (taken : List Char) (fuel : Nat) :
    Keeps origin (takeUntil closer what taken fuel) := by
  induction fuel generalizing taken with
  | zero => mvcgen [takeUntil]
  | succ fuel ih =>
    mvcgen [takeUntil, ih]
    all_goals grind

@[spec]
theorem takeName_spec (closer : Char) (what : String) : Keeps origin (takeName closer what) := by
  mvcgen [takeName]

/-! ## Groups that are known -/

@[spec]
theorem groupCount_spec : Looks tokens state groupCount := by
  mvcgen [groupCount]

@[spec]
theorem isClosed_spec (group : Nat) : Looks tokens state (isClosed group) := by
  mvcgen [isClosed]

@[spec]
theorem checkLookbehind_spec (group : Nat) : Looks tokens state (checkLookbehind group) := by
  mvcgen [checkLookbehind]
  all_goals grind

@[spec]
theorem groupNamed?_spec (name : String) : Looks tokens state (groupNamed? name) := by
  mvcgen [groupNamed?]

@[spec]
theorem openGroup_spec (name : Option String) :
    ⦃fun before => ⌜before = state⌝⦄ openGroup name
    ⦃post⟨fun _ after => ⌜state.Opens after⌝, fun fault => ⌜fault.Founded tokens⌝⟩⦄ := by
  mvcgen [openGroup]
  all_goals grind [ReaderState.Opens, ReaderState.Named]

@[spec]
theorem groupWidth_spec : Looks tokens state groupWidth := by
  mvcgen [groupWidth]

@[spec]
theorem closeGroup_spec (index : Nat) (body : Node) : Keeps origin (closeGroup index body) := by
  mvcgen [closeGroup]
  all_goals grind [ReaderState.Reaches.of_same]

/-! ## Escapes -/

/-- The first of the two places where an overflow arises: the digits of a code point. -/
@[spec]
theorem hexEscape_spec (letter : Char) (count : Nat)
    (fits : count < 8 ∨ count = 8 ∧ letter = 'U') :
    KeepsBehind origin (.escaped letter) (hexEscape letter count) := by
  mvcgen [hexEscape]
  all_goals grind [ReaderState.Behind.founded_of_hex]

@[spec]
theorem namedEscape_spec : Keeps origin namedEscape := by
  mvcgen [namedEscape]
  all_goals grind

@[spec]
theorem octalEscape_spec (digits : List Char) : Keeps origin (octalEscape digits) := by
  mvcgen [octalEscape]

@[spec]
theorem pointEscape_spec (c : Char) : KeepsBehind origin (.escaped c) (pointEscape c) := by
  mvcgen [pointEscape]
  all_goals grind

@[spec]
theorem numberedReference_spec (digits : List Char) : Keeps origin (numberedReference digits) := by
  mvcgen [numberedReference]
  all_goals grind

@[spec]
theorem digitEscape_spec (c : Char) : Keeps origin (digitEscape c) := by
  mvcgen [digitEscape]
  all_goals grind

@[spec]
theorem escapeItem_spec (c : Char) : KeepsBehind origin (.escaped c) (escapeItem c) := by
  mvcgen [escapeItem]
  all_goals grind

/-! ## Character sets -/

@[spec]
theorem setEscape_spec (c : Char) : KeepsBehind origin (.escaped c) (setEscape c) := by
  mvcgen [setEscape]
  all_goals grind

@[spec]
theorem setMember_spec (token : Token) : KeepsBehind origin token (setMember token) := by
  mvcgen [setMember]
  all_goals grind

@[spec]
theorem setMembers_spec (start : Nat) (members : List Member) (fuel : Nat) :
    Keeps origin (setMembers start members fuel) := by
  induction fuel generalizing members with
  | zero => mvcgen [setMembers]
  | succ fuel ih =>
    mvcgen [setMembers, ih]
    all_goals grind

@[spec]
theorem charSet_spec : Keeps origin charSet := by
  mvcgen [charSet]
  all_goals grind

/-! ## Repetitions -/

@[spec]
theorem countOf_spec (digits : List Char) :
    ⦃fun before => ⌜before = state⌝⦄ countOf digits
    ⦃post⟨fun _ after => ⌜after = state⌝, fun fault =>
      ⌜fault.isDefect = true ∨
        fault = .overflow .repetitionCount ∧ unbounded ≤ Number.digitsValue digits⌝⟩⦄ := by
  mvcgen [countOf]
  all_goals grind [Fault.isDefect]

/-- The second place where an overflow arises. Both counts are known to stand between the braces
    before either is converted. -/
@[spec]
theorem braces_spec : KeepsBehind origin (.plain '\x7b') braces := by
  mvcgen [braces]
  all_goals grind [ReaderState.Behind.founded_of_count, ReaderState.Behind.founded_of_counts,
    Fault.Founded]

@[spec]
theorem counts?_spec (c : Char) : KeepsBehind origin (.plain c) (counts? c) := by
  mvcgen [counts?]
  all_goals grind

@[spec]
theorem greed_spec : Keeps origin greed := by
  mvcgen [greed]
  all_goals grind

@[spec]
theorem repeatLast_spec (start least : Nat) (most : Option Nat) (items : List Item) :
    Keeps origin (repeatLast start least most items) := by
  mvcgen [repeatLast]
  all_goals grind

/-! ## Beginnings and ends of groups -/

@[spec]
theorem skipLine_spec (fuel : Nat) : Keeps origin (skipLine fuel) := by
  induction fuel with
  | zero => mvcgen [skipLine]
  | succ fuel ih =>
    mvcgen [skipLine, ih]
    all_goals grind

@[spec]
theorem skipComment_spec (start fuel : Nat) : Keeps origin (skipComment start fuel) := by
  induction fuel with
  | zero => mvcgen [skipComment]
  | succ fuel ih =>
    mvcgen [skipComment, ih]
    all_goals grind

@[spec]
theorem flagsOn_spec (c : Char) (on : List Char) (fuel : Nat) :
    Keeps origin (flagsOn c on fuel) := by
  induction fuel generalizing c on with
  | zero => mvcgen [flagsOn]
  | succ fuel ih =>
    mvcgen [flagsOn, ih]
    all_goals grind

@[spec]
theorem flagsOff_spec (c : Char) (off : List Char) (fuel : Nat) :
    Keeps origin (flagsOff c off fuel) := by
  induction fuel generalizing c off with
  | zero => mvcgen [flagsOff]
  | succ fuel ih =>
    mvcgen [flagsOff, ih]
    all_goals grind

@[spec]
theorem flagScope_spec (c : Char) : Keeps origin (flagScope c) := by
  mvcgen [flagScope]
  all_goals grind

@[spec]
theorem groupName_spec (closer : Char) : Keeps origin (groupName closer) := by
  mvcgen [groupName]
  all_goals grind

@[spec]
theorem namedReference_spec : Keeps origin namedReference := by
  mvcgen [namedReference]
  all_goals grind

@[spec]
theorem conditionGroup_spec : Keeps origin conditionGroup := by
  mvcgen [conditionGroup]
  all_goals grind [ReaderState.Reaches.of_same]

@[spec]
theorem opening_spec (start : Nat) : Keeps origin (opening start) := by
  mvcgen [opening]
  all_goals grind

@[spec]
theorem setFlags_spec (start : Nat) (atStart : Bool) (on : List Char) :
    Keeps origin (setFlags start atStart on) := by
  mvcgen [setFlags]
  all_goals grind [ReaderState.Reaches.of_same]

@[spec]
theorem closeParenthesis_spec (start : Nat) : Keeps origin (closeParenthesis start) := by
  mvcgen [closeParenthesis]
  all_goals grind

theorem withFlags_spec (flags : Flags) {reader : Reader α}
    (keeps : Keeps origin reader) : Keeps origin (withFlags flags reader) := by
  mvcgen [withFlags, keeps]
  all_goals grind [ReaderState.Reaches.of_same]

theorem insideLookbehind_spec {reader : Reader α} (keeps : Keeps origin reader) :
    Keeps origin (insideLookbehind reader) := by
  mvcgen [insideLookbehind, keeps]
  all_goals grind [ReaderState.Reaches.of_same]

/-! ## Whole patterns -/

/-- Branches and items call each other with less fuel, so both are followed in one induction. Where
    they begin is part of what it says, since the inside of a group is read from a later state. -/
theorem branches_items_spec (fuel : Nat) :
    (∀ origin inWhole, Keeps origin (branches inWhole fuel)) ∧
      ∀ origin inWhole done, Keeps origin (items inWhole done fuel) := by
  induction fuel with
  | zero =>
    constructor
    · intro origin inWhole
      mvcgen [branches]
    · intro origin inWhole done
      mvcgen [items]
  | succ fuel ih =>
    rcases ih with ⟨branchesKeep, itemsKeep⟩
    constructor
    · intro origin inWhole
      mvcgen [branches, branchesKeep, itemsKeep]
      all_goals grind
    · intro origin inWhole done
      mvcgen [items, branchesKeep, itemsKeep, withFlags_spec, insideLookbehind_spec]
      all_goals grind

@[spec]
theorem branches_spec (inWhole : Bool) (fuel : Nat) : Keeps origin (branches inWhole fuel) :=
  (branches_items_spec fuel).1 origin inWhole

theorem whole_spec :
    ⦃fun before => ⌜origin.Reaches before⌝⦄ whole
    ⦃post⟨fun found after =>
        ⌜origin.Reaches after ∧ found.2 = (after.widths.length, after.names)⌝,
      fun fault => ⌜fault.Founded origin.tokens⌝⟩⦄ := by
  mvcgen [whole]
  all_goals grind [Node.founded_of_fault?, Fault.Founded, Fault.isDefect]

/-- What is to hold after a reader is what holds of its result. -/
theorem wp_eq_run (reader : Reader α) (Q : PostCond α Shape) :
    wp⟦reader⟧ Q state =
      match reader.run state with
      | .ok (a, after) => Q.1 a after
      | .error fault => Q.2.1 fault := by
  change wp⟦reader.run state⟧ (fun (a, after) => Q.1 a after, Q.2) = _
  cases reader.run state <;> rfl

end Reader

/-! ## Results -/

theorem Token.length_ofChars_le (chars : List Char) : (ofChars chars).length ≤ chars.length := by
  fun_induction ofChars chars with
  | case1 => exact Nat.le_refl _
  | case2 => exact Nat.le_refl _
  | case3 c rest ih =>
    simp only [List.length_cons]
    omega
  | case4 c rest _ _ ih =>
    simp only [List.length_cons]
    omega

variable {host : Host} {source : String}

/-- A pattern is not read for a defect of it, for a stack that is too small, or for a number that is
    too large and written in it. -/
theorem cases_of_read_eq_error {fault : Fault} (refused : read host source = .error fault) :
    fault.isDefect = true ∨ fault = .stackExhausted ∧ host.canRead source = false ∨
      ∃ number, fault = .overflow number ∧ number.WrittenIn source.toList := by
  have holds := Reader.whole_spec _ (.initial host.characterNamed? source) (.refl _)
  rw [Reader.wp_eq_run] at holds
  unfold read at refused
  split at refused
  · next small =>
    cases refused
    exact .inr (.inl ⟨rfl, by simpa using small⟩)
  · split at refused
    · next found ended =>
      cases refused
      rw [ended] at holds
      rcases holds with defect | ⟨number, same, written⟩
      · exact .inl defect
      · rw [ReaderState.initial, Token.charsOf_ofChars] at written
        exact .inr (.inr ⟨number, same, written⟩)
    · cases refused

/-- A pattern has no more groups than characters, and its names are names of its groups. -/
theorem groups_of_read {pattern : Pattern} (accepted : read host source = .ok pattern) :
    pattern.groups ≤ source.length ∧
      ∀ entry ∈ pattern.names, 0 < entry.2 ∧ entry.2 ≤ pattern.groups := by
  have holds := Reader.whole_spec _ (.initial host.characterNamed? source) (.refl _)
  rw [Reader.wp_eq_run] at holds
  unfold read at accepted
  split at accepted
  · cases accepted
  · split at accepted
    · cases accepted
    · next root groups names after ended =>
      cases accepted
      rw [ended] at holds
      rcases holds with ⟨reaches, known⟩
      cases known
      refine ⟨?_, reaches.named nofun⟩
      calc after.widths.length
        _ ≤ (Token.ofChars source.toList).length := by
          have room := reaches.room
          simp only [ReaderState.initial, List.length_nil] at room
          omega
        _ ≤ source.toList.length := Token.length_ofChars_le _
        _ = source.length := String.length_toList

end JavadocRepair.Pattern
