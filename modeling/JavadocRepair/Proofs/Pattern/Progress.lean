import Mathlib
import JavadocRepair.Proofs.Pattern.Overflow

/-!
# How readers move on

While a pattern is read, tokens are taken and groups are opened. A state is reached from another if
its tokens are an end of the other's, no more groups were opened than tokens were taken, and names
still belong to groups that were opened. Readers do nothing else to what this is about, so steps of
this kind can be chained up to the end of a pattern.
-/

namespace JavadocRepair.Pattern.ReaderState

variable {before middle after : ReaderState} {token : Token} {taken more : List Token}

/-- Every name belongs to a group that was opened. -/
def Named (state : ReaderState) : Prop :=
  ∀ entry ∈ state.names, 0 < entry.2 ∧ entry.2 ≤ state.widths.length

/-- Some tokens were taken, and no group was opened. -/
structure Takes (before : ReaderState) (taken : List Token) (after : ReaderState) : Prop where
  tokens : before.tokens = taken ++ after.tokens
  widths : after.widths = before.widths
  names : after.names = before.names

/-- A group was opened, and no token was taken. -/
structure Opens (before after : ReaderState) : Prop where
  tokens : after.tokens = before.tokens
  widths : after.widths.length = before.widths.length + 1
  named : before.Named → after.Named

/-- Tokens were taken, and at most as many groups were opened. -/
structure Reaches (before after : ReaderState) : Prop where
  tokens : after.tokens <:+ before.tokens
  room : after.widths.length + after.tokens.length ≤ before.widths.length + before.tokens.length
  named : before.Named → after.Named

/-- A state was reached, and the last token taken on the way is known. -/
structure Behind (before : ReaderState) (token : Token) (after : ReaderState) : Prop where
  tokens : token :: after.tokens <:+ before.tokens
  reaches : before.Reaches after

attribute [grind →] Behind.reaches

@[grind ←]
theorem Takes.refl (state : ReaderState) : state.Takes [] state :=
  ⟨rfl, rfl, rfl⟩

@[grind →]
theorem Takes.trans (first : before.Takes taken middle) (second : middle.Takes more after) :
    before.Takes (taken ++ more) after where
  tokens := by rw [first.tokens, second.tokens, List.append_assoc]
  widths := second.widths.trans first.widths
  names := second.names.trans first.names

@[grind →]
theorem Takes.reaches (takes : before.Takes taken after) : before.Reaches after where
  tokens := ⟨taken, takes.tokens.symm⟩
  room := by
    rw [takes.tokens, takes.widths, List.length_append]
    omega
  named := by
    intro named
    rwa [Named, takes.names, takes.widths]

@[grind ←]
theorem Reaches.refl (state : ReaderState) : state.Reaches state :=
  (Takes.refl state).reaches

@[grind →]
theorem Reaches.trans (first : before.Reaches middle) (second : middle.Reaches after) :
    before.Reaches after where
  tokens := second.tokens.trans first.tokens
  room := second.room.trans first.room
  named := second.named ∘ first.named

/-- Flags, references and the widths of groups may change on the way. -/
theorem Reaches.of_same (reaches : before.Reaches middle) (tokens : after.tokens = middle.tokens)
    (widths : after.widths.length = middle.widths.length) (names : after.names = middle.names) :
    before.Reaches after := by
  refine reaches.trans ⟨by rw [tokens], by rw [tokens, widths], ?_⟩
  intro named
  rwa [Named, names, widths]

@[grind →]
theorem Reaches.behind (reaches : before.Reaches middle) (takes : middle.Takes [token] after) :
    before.Behind token after := by
  refine ⟨?_, reaches.trans takes.reaches⟩
  have there := reaches.tokens
  rwa [takes.tokens] at there

/-- The parenthesis makes up for the group that it opens. -/
@[grind →]
theorem Reaches.opens {inside opened : ReaderState} (reaches : before.Reaches middle)
    (takes : middle.Takes [token] after) (within : after.Reaches inside)
    (opens : inside.Opens opened) : before.Reaches opened := by
  refine reaches.trans ⟨?_, ?_, ?_⟩
  · rw [opens.tokens]
    exact within.tokens.trans takes.reaches.tokens
  · have room := within.room
    rw [opens.tokens, opens.widths, takes.tokens, ← takes.widths, List.length_append,
      List.length_singleton]
    omega
  · intro named
    exact opens.named (within.named (takes.reaches.named named))

/-! ## Founded faults -/

/-- What is founded in the tokens that are left is founded in all of them. -/
@[grind →]
theorem Reaches.founded {fault : Fault} (reaches : before.Reaches after)
    (founded : fault.Founded after.tokens) : fault.Founded before.tokens :=
  founded.of_suffix reaches.tokens

theorem Behind.suffix (behind : before.Behind token middle) (takes : middle.Takes taken after) :
    token :: (taken ++ after.tokens) <:+ before.tokens :=
  takes.tokens ▸ behind.tokens

/-- Hexadecimal digits were taken behind a letter. -/
theorem Behind.founded_of_hex {letter : Char} {digits : List Char}
    (behind : before.Behind (.escaped letter) middle)
    (takes : middle.Takes (digits.map .plain) after)
    (numeral : ∀ c ∈ digits, isHexDigit c = true)
    (fits : digits.length < 8 ∨ digits.length = 8 ∧ letter = 'U')
    (large : 0x7fffffff < digitsInBase 16 digits) :
    (Fault.overflow .codePoint).Founded before.tokens :=
  Fault.founded_of_hex (behind.suffix takes) numeral fits large

/-- One count was taken, and the braces around it. -/
theorem Behind.founded_of_count {digits : List Char} {closed : ReaderState}
    (behind : before.Behind (.plain '\x7b') middle)
    (takes : middle.Takes (digits.map .plain) after) (closes : after.Takes [.plain '\x7d'] closed)
    (numeral : ∀ c ∈ digits, Text.isAsciiDigit c = true)
    (large : unbounded ≤ Number.digitsValue digits) :
    (Fault.overflow .repetitionCount).Founded before.tokens :=
  Fault.founded_of_count (by simpa using behind.suffix (takes.trans closes)) numeral large

/-- Two counts were taken, and the braces around them. -/
theorem Behind.founded_of_counts {low high : List Char} {comma last closed : ReaderState}
    (behind : before.Behind (.plain '\x7b') middle)
    (takesLow : middle.Takes (low.map .plain) after) (parts : after.Takes [.plain ','] comma)
    (takesHigh : comma.Takes (high.map .plain) last) (closes : last.Takes [.plain '\x7d'] closed)
    (lowNumeral : ∀ c ∈ low, Text.isAsciiDigit c = true)
    (highNumeral : ∀ c ∈ high, Text.isAsciiDigit c = true)
    (large : unbounded ≤ Number.digitsValue low ∨ unbounded ≤ Number.digitsValue high) :
    (Fault.overflow .repetitionCount).Founded before.tokens := by
  have takes := ((takesLow.trans parts).trans takesHigh).trans closes
  exact Fault.founded_of_counts (by simpa using behind.suffix takes) lowNumeral highNumeral large

end JavadocRepair.Pattern.ReaderState
