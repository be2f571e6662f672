import JavadocRepair.Text.Blank
import JavadocRepair.Text.Digit

/-!
# Reading integers

Decimal digits, where a single low line may stand between two of them, behind an optional sign and
between blanks. Which characters are blanks and which are digits is for the caller to say. No
number of more than `maxDigits` digits is converted, from a text or into one.
-/

namespace JavadocRepair.Number

/-- The greatest number of digits that are converted. -/
def maxDigits : Nat := 4300

/-- What is said about a text of more digits. -/
def tooManyDigitsMessage (digits : Nat) : String :=
  s!"Exceeds the limit ({maxDigits} digits) for integer string conversion: "
    ++ s!"value has {digits} digits; use sys.set_int_max_str_digits() to increase the limit"

/-- The least number that has more digits than are converted. -/
@[irreducible]
def tooLarge : Nat := Nat.pow 10 maxDigits

/-- What is said about a number that is too large to be written. -/
def tooLargeMessage : String :=
  s!"Exceeds the limit ({maxDigits} digits) for integer string conversion; "
    ++ "use sys.set_int_max_str_digits() to increase the limit"

/-- The value of ASCII digits. -/
def digitsValue (digits : List Char) : Nat :=
  digits.foldl (fun n c => n * 10 + (c.toNat - 48)) 0

/-- Reads digits with low lines between them, after a value read so far. -/
def readDigits? (digit? : Char → Option Nat) (value : Nat) (afterDigit : Bool) :
    List Char → Option Nat
  | [] => if afterDigit then some value else none
  | c :: rest =>
    match digit? c with
    | some d => readDigits? digit? (value * 10 + d) true rest
    | none =>
      if afterDigit && c = '_' then readDigits? digit? value false rest else none

/-- Reads an integer with an optional sign. -/
def readSigned? (digit? : Char → Option Nat) : List Char → Option Int
  | '-' :: digits => (readDigits? digit? 0 false digits).map fun n => -(n : Int)
  | '+' :: digits => (readDigits? digit? 0 false digits).map fun n => (n : Int)
  | digits => (readDigits? digit? 0 false digits).map fun n => (n : Int)

/-- Reads an integer between blanks. -/
def readInteger? (isBlank : Char → Bool) (digit? : Char → Option Nat) (text : List Char) :
    Option Int :=
  let trimmed := Text.trimWith isBlank text
  if (trimmed.filter fun c => (digit? c).isSome).length > maxDigits then none
  else readSigned? digit? trimmed

/-- The value of an ASCII digit. -/
def asciiDigit? (c : Char) : Option Nat :=
  if Text.isAsciiDigit c then some (c.toNat - 48) else none

end JavadocRepair.Number
