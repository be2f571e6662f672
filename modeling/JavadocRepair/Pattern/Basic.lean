import JavadocRepair.Text.Blank
import JavadocRepair.Text.Case
import JavadocRepair.Text.Digit
import JavadocRepair.Text.Word

/-!
# Patterns

The tree of a pattern, with everything that flags decide already resolved: a character set says
itself whether it folds case, an anchor which ends it means. Code points are numbers rather than
characters, since a pattern may name a surrogate, which then matches nothing.
-/

namespace JavadocRepair.Pattern

/-- The characters that classes and the folding of case know: those of ASCII alone, or those of all
    scripts. -/
inductive Alphabet where
  | ascii
  | unicode
  deriving Repr, DecidableEq

/-- The classes of characters that have a short form. -/
inductive Category where
  | digit
  | space
  | word
  deriving Repr, DecidableEq

/-- One entry of a character set. -/
inductive Member where
  | point (n : Nat)
  | range (low high : Nat)
  | category (kind : Category) (alphabet : Alphabet) (negated : Bool)
  deriving Repr, DecidableEq

/-- A set of characters: those that are members, or those that are not. A set with a folding does
    not tell the cases of the letters of that alphabet apart. -/
structure CharSet where
  members : List Member
  negated : Bool
  folding : Option Alphabet
  deriving Repr, DecidableEq

/-- A condition on a place in the subject. -/
inductive Anchor where
  | textStart
  | lineStart
  | textEnd
  /-- The end, or the place before a line feed that is the last character. -/
  | lastLineEnd
  | lineEnd
  | wordBoundary (alphabet : Alphabet)
  | notWordBoundary (alphabet : Alphabet)
  deriving Repr, DecidableEq

/-- In which order a repetition tries its numbers of iterations; a possessive one keeps the first
    number that it finds. -/
inductive Greed where
  | greedy
  | sparing
  | possessive
  deriving Repr, DecidableEq

/-- The tree of a pattern. `run` is the repetition of a single character. -/
inductive Node where
  | empty
  | char (set : CharSet)
  | run (greed : Greed) (least : Nat) (most : Option Nat) (set : CharSet)
  | anchor (place : Anchor)
  | backreference (index : Nat) (folding : Option Alphabet)
  | group (index : Nat) (body : Node)
  | sequence (first second : Node)
  | choice (first second : Node)
  | repetition (greed : Greed) (least : Nat) (most : Option Nat) (body : Node)
  | atomic (body : Node)
  | lookahead (negated : Bool) (body : Node)
  | lookbehind (negated : Bool) (width : Nat) (body : Node)
  | conditional (index : Nat) (present absent : Node)
  deriving Repr, DecidableEq

/-- The lower-case form of a code point in an alphabet; every other code point is its own. -/
def Alphabet.lowerCase (alphabet : Alphabet) (n : Nat) : Nat :=
  match alphabet with
  | .ascii => if 65 ≤ n ∧ n ≤ 90 then n + 32 else n
  | .unicode => Text.lowerCase n

/-- The code points that differ from one in lower case at most in case. -/
def Alphabet.caseVariants (alphabet : Alphabet) (n : Nat) : List Nat :=
  match alphabet with
  | .ascii => if 97 ≤ n ∧ n ≤ 122 then [n, n - 32] else [n]
  | .unicode => Text.caseVariants n

/-- Membership of a character in a category. -/
def Category.contains (kind : Category) (alphabet : Alphabet) (n : Nat) : Bool :=
  match alphabet, kind with
  | .ascii, .digit => 48 ≤ n && n ≤ 57
  | .ascii, .space => (9 ≤ n && n ≤ 13) || n == 32
  | .ascii, .word =>
    (48 ≤ n && n ≤ 57) || (65 ≤ n && n ≤ 90) || n == 95 || (97 ≤ n && n ≤ 122)
  | .unicode, .digit => (Text.digitValue? (.ofNat n)).isSome
  | .unicode, .space => Text.isBlank (.ofNat n)
  | .unicode, .word => Text.isWordCharacter (.ofNat n)

/-- A code point belongs to an entry of a set. -/
def Member.contains (member : Member) (n : Nat) : Bool :=
  match member with
  | .point m => n == m
  | .range low high => low ≤ n && n ≤ high
  | .category kind alphabet negated => kind.contains alphabet n != negated

/-- A code point in lower case belongs to an entry when one of its variants does; a category is asked
    about the code point itself. -/
def Member.containsFolded (member : Member) (alphabet : Alphabet) (n : Nat) : Bool :=
  match member with
  | .category .. => member.contains n
  | _ => (alphabet.caseVariants n).any member.contains

/-- A character belongs to a set. -/
def CharSet.contains (set : CharSet) (c : Char) : Bool :=
  match set.folding with
  | none => (set.members.any (·.contains c.toNat)) != set.negated
  | some alphabet =>
    (set.members.any (·.containsFolded alphabet (alphabet.lowerCase c.toNat))) != set.negated

/-- The repetition of a node; that of a single character is a `run`. -/
def Node.repeated (greed : Greed) (least : Nat) (most : Option Nat) : Node → Node
  | .char set => .run greed least most set
  | body => .repetition greed least most body

/-- The nodes of a list one after the other. -/
def Node.sequenceOf : List Node → Node
  | [] => .empty
  | [node] => node
  | node :: rest => .sequence node (sequenceOf rest)

end JavadocRepair.Pattern
