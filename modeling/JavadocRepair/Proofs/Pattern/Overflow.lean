import Mathlib
import JavadocRepair.Pattern.Reader

/-!
# Where a number that is too large is written

A repetition count stands between braces, alone or as one of two, and a code point that does not fit
is written with eight digits behind a backslash and a capital U. A fault is founded in tokens if it
is a defect, or the overflow of a number that these tokens spell.
-/

namespace JavadocRepair.Pattern

/-! ## Written numbers -/

/-- The texts in which a number that is too large is written. -/
inductive Overflow.WrittenAs : Overflow → List Char → Prop where
  | count {digits : List Char} (numeral : ∀ c ∈ digits, Text.isAsciiDigit c = true)
      (large : unbounded ≤ Number.digitsValue digits) :
      WrittenAs .repetitionCount ('\x7b' :: digits ++ ['\x7d'])
  | counts {low high : List Char} (lowNumeral : ∀ c ∈ low, Text.isAsciiDigit c = true)
      (highNumeral : ∀ c ∈ high, Text.isAsciiDigit c = true)
      (large : unbounded ≤ Number.digitsValue low ∨ unbounded ≤ Number.digitsValue high) :
      WrittenAs .repetitionCount ('\x7b' :: low ++ ',' :: high ++ ['\x7d'])
  | codePoint {digits : List Char} (numeral : ∀ c ∈ digits, isHexDigit c = true)
      (eight : digits.length = 8) (large : 0x7fffffff < digitsInBase 16 digits) :
      WrittenAs .codePoint ('\\' :: 'U' :: digits)

/-- A number that is too large is written somewhere in a text. -/
def Overflow.WrittenIn (number : Overflow) (chars : List Char) : Prop :=
  ∃ text, number.WrittenAs text ∧ text <:+: chars

theorem hexDigitValue_lt {c : Char} (digit : isHexDigit c = true) : hexDigitValue c < 16 := by
  have le_iff (d : Char) : c ≤ d ↔ c.toNat ≤ d.toNat := UInt32.le_iff_toNat_le
  have ge_iff (d : Char) : d ≤ c ↔ d.toNat ≤ c.toNat := UInt32.le_iff_toNat_le
  simp only [isHexDigit, le_iff, ge_iff, Bool.or_eq_true, Bool.and_eq_true, decide_eq_true_eq]
    at digit
  simp only [hexDigitValue, le_iff]
  have bounds : '0'.toNat = 48 ∧ '9'.toNat = 57 ∧ 'A'.toNat = 65 ∧ 'F'.toNat = 70 ∧
      'a'.toNat = 97 ∧ 'f'.toNat = 102 := by decide
  split_ifs <;> omega

/-- A number is bounded by how many hexadecimal digits it has. -/
theorem digitsInBase_lt {digits : List Char} (numeral : ∀ c ∈ digits, isHexDigit c = true) :
    digitsInBase 16 digits < 16 ^ digits.length := by
  induction digits using List.reverseRecOn with
  | nil => decide
  | append_singleton digits c ih =>
    have value := hexDigitValue_lt (numeral c (by simp))
    have before := ih fun d member => numeral d (by simp [member])
    simp only [digitsInBase, List.foldl_append, List.foldl_cons, List.foldl_nil,
      List.length_append, List.length_singleton, pow_succ] at *
    omega

/-! ## Tokens -/

namespace Token

/-- The text that tokens were cut from. -/
def charsOf (tokens : List Token) : List Char :=
  tokens.flatMap chars

@[simp]
theorem charsOf_nil : charsOf [] = [] := rfl

@[simp]
theorem charsOf_cons (token : Token) (tokens : List Token) :
    charsOf (token :: tokens) = token.chars ++ charsOf tokens :=
  rfl

@[simp]
theorem charsOf_append (front back : List Token) :
    charsOf (front ++ back) = charsOf front ++ charsOf back :=
  List.flatMap_append

@[simp]
theorem charsOf_map_plain (chars : List Char) : charsOf (chars.map plain) = chars := by
  induction chars with
  | nil => rfl
  | cons c chars ih => simp [Token.chars, ih]

/-- Cutting a text into tokens loses nothing. -/
theorem charsOf_ofChars (chars : List Char) : charsOf (ofChars chars) = chars := by
  fun_induction ofChars chars with
  | case1 => rfl
  | case2 => rfl
  | case3 c rest ih => simp [Token.chars, ih]
  | case4 c rest _ _ ih => simp [Token.chars, ih]

end Token

/-! ## Founded faults -/

/-- A fault is a defect, or the overflow of a number that the tokens spell. -/
def Fault.Founded (tokens : List Token) (fault : Fault) : Prop :=
  fault.isDefect = true ∨
    ∃ number, fault = .overflow number ∧ number.WrittenIn (Token.charsOf tokens)

namespace Fault

variable {tokens rest : List Token} {fault : Fault}

/-- What is written in an end of the tokens is written in all of them. -/
@[grind →]
theorem Founded.of_suffix (founded : fault.Founded rest) (suffix : rest <:+ tokens) :
    fault.Founded tokens := by
  rcases founded with defect | ⟨number, same, text, written, there⟩
  · exact .inl defect
  rcases suffix with ⟨before, rfl⟩
  refine .inr ⟨number, same, text, written, there.trans ?_⟩
  rw [Token.charsOf_append]
  exact (List.suffix_append _ _).isInfix

/-- An overflow is founded if an end of the tokens begins with its number. -/
theorem founded_of_writtenAs {number : Overflow} {text : List Char}
    (written : number.WrittenAs text) (spelled : text <+: Token.charsOf rest)
    (suffix : rest <:+ tokens) : (overflow number).Founded tokens := by
  refine Founded.of_suffix ?_ suffix
  exact .inr ⟨number, rfl, text, written, spelled.isInfix⟩

/-- One count between braces. -/
theorem founded_of_count {digits : List Char}
    (there : .plain '\x7b' :: (digits.map .plain ++ .plain '\x7d' :: rest) <:+ tokens)
    (numeral : ∀ c ∈ digits, Text.isAsciiDigit c = true)
    (large : unbounded ≤ Number.digitsValue digits) : (overflow .repetitionCount).Founded tokens :=
  founded_of_writtenAs (.count numeral large) ⟨Token.charsOf rest, by simp [Token.chars]⟩ there

/-- Two counts between braces, of which one is too large. -/
theorem founded_of_counts {low high : List Char}
    (there : .plain '\x7b' ::
      (low.map .plain ++ .plain ',' :: (high.map .plain ++ .plain '\x7d' :: rest)) <:+ tokens)
    (lowNumeral : ∀ c ∈ low, Text.isAsciiDigit c = true)
    (highNumeral : ∀ c ∈ high, Text.isAsciiDigit c = true)
    (large : unbounded ≤ Number.digitsValue low ∨ unbounded ≤ Number.digitsValue high) :
    (overflow .repetitionCount).Founded tokens :=
  founded_of_writtenAs (.counts lowNumeral highNumeral large)
    ⟨Token.charsOf rest, by simp [Token.chars]⟩ there

/-- Hexadecimal digits behind a letter. Fewer than eight never make a number that is too large. -/
theorem founded_of_hex {letter : Char} {digits : List Char}
    (there : .escaped letter :: (digits.map .plain ++ rest) <:+ tokens)
    (numeral : ∀ c ∈ digits, isHexDigit c = true)
    (fits : digits.length < 8 ∨ digits.length = 8 ∧ letter = 'U')
    (large : 0x7fffffff < digitsInBase 16 digits) : (overflow .codePoint).Founded tokens := by
  rcases fits with short | ⟨eight, rfl⟩
  · have bound : digitsInBase 16 digits < 16 ^ 7 :=
      (digitsInBase_lt numeral).trans_le (Nat.pow_le_pow_right (by decide) (by omega))
    omega
  · exact founded_of_writtenAs (.codePoint numeral eight large)
      ⟨Token.charsOf rest, by simp [Token.chars]⟩ there

end Fault

/-- The tree of a pattern is not refused for a number. -/
theorem Node.founded_of_fault? {tokens : List Token} {noRepetitions : Bool} {groups : Nat → Width}
    {fault : Fault} {node : Node} (refused : node.fault? noRepetitions groups = some fault) :
    fault.Founded tokens := by
  induction node with
  | empty | char | anchor | backreference => simp [Node.fault?] at refused
  | run =>
    simp only [Node.fault?, Option.ite_none_right_eq_some, Option.some.injEq] at refused
    rcases refused with ⟨_, rfl⟩
    exact .inl rfl
  | repetition _ _ _ body ih =>
    simp only [Node.fault?] at refused
    split at refused
    · cases refused
      exact .inl rfl
    · exact ih refused
  | group _ body ih | atomic body ih | lookahead _ body ih => exact ih refused
  | lookbehind _ _ body ih =>
    simp only [Node.fault?] at refused
    split at refused
    · cases refused
      exact .inl rfl
    · exact ih refused
  | sequence first second ihFirst ihSecond | choice first second ihFirst ihSecond
  | conditional _ first second ihFirst ihSecond =>
    rcases Option.or_eq_some_iff.1 refused with earlier | ⟨_, later⟩
    · exact ihFirst earlier
    · exact ihSecond later

end JavadocRepair.Pattern
