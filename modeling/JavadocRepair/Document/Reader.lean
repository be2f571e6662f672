import JavadocRepair.Document.Basic
import JavadocRepair.Number.Integer
import JavadocRepair.Text.Utf8

/-!
# Reading documents

The JSON grammar, strictly: no comments, no trailing commas, no bare control characters and no
lone surrogates. Of fields with one name the last value counts, at the place of the first. Limits
say how deep values may be nested and which integers are kept as such; greater ones become
floating-point numbers. A number beyond the floating-point numbers makes the text invalid.
-/

namespace JavadocRepair.Document

/-- What a reader of documents accepts. -/
structure Limits where
  depth : Nat
  integers : Option (Int × Int)

/-- Limits of configuration files: 1024 levels and integers of 64 bits, signed or not. -/
def Limits.standard : Limits := ⟨1024, some (-0x8000000000000000, 0xffffffffffffffff)⟩

/-- What is left after blanks. -/
def skipBlanks : List Char → List Char
  | [] => []
  | c :: rest => if c = ' ' || c = '\t' || c = '\n' || c = '\r' then skipBlanks rest else c :: rest

/-- The value of a hexadecimal digit. -/
def hexValue? (c : Char) : Option Nat :=
  if '0' ≤ c ∧ c ≤ '9' then some (c.toNat - 48)
  else if 'a' ≤ c ∧ c ≤ 'f' then some (c.toNat - 87)
  else if 'A' ≤ c ∧ c ≤ 'F' then some (c.toNat - 55)
  else none

/-- The value of four hexadecimal digits. -/
def unit? (a b c d : Char) : Option Nat := do
  let high := (← hexValue? a) * 16 + (← hexValue? b)
  return (high * 16 + (← hexValue? c)) * 16 + (← hexValue? d)

/-- The character that one letter stands for behind a backslash. -/
def shortEscape? : Char → Option Char
  | '"' => some '"'
  | '\\' => some '\\'
  | '/' => some '/'
  | 'b' => some '\x08'
  | 'f' => some '\x0c'
  | 'n' => some '\n'
  | 'r' => some '\r'
  | 't' => some '\t'
  | _ => none

/-- The rest of a text behind its opening quote. The characters read go in front of those already
    read, last one first. -/
def textTail (done : List Char) : List Char → Option (String × List Char)
  | '"' :: rest => some (String.ofList done.reverse, rest)
  | '\\' :: 'u' :: a :: b :: c :: d :: rest =>
    match unit? a b c d with
    | none => none
    | some first =>
      if 0xd800 ≤ first ∧ first < 0xdc00 then
        match rest with
        | '\\' :: 'u' :: e :: f :: g :: h :: rest =>
          match unit? e f g h with
          | none => none
          | some second =>
            if 0xdc00 ≤ second ∧ second < 0xe000 then
              let n := 0x10000 + (first - 0xd800) * 0x400 + (second - 0xdc00)
              textTail (Char.ofNat n :: done) rest
            else none
        | _ => none
      else if 0xdc00 ≤ first ∧ first < 0xe000 then none
      else textTail (Char.ofNat first :: done) rest
  | '\\' :: c :: rest =>
    match shortEscape? c with
    | some escaped => textTail (escaped :: done) rest
    | none => none
  | c :: rest => if c.toNat < 0x20 then none else textTail (c :: done) rest
  | [] => none

/-- The digits at the front and what follows them. -/
def digitsOf (input : List Char) : List Char × List Char :=
  (input.takeWhile Text.isAsciiDigit, input.dropWhile Text.isAsciiDigit)

/-- The fraction behind a numeral: its digits, of which a point needs at least one. -/
def fraction? : List Char → Option (List Char × List Char)
  | '.' :: rest =>
    let (digits, rest) := digitsOf rest
    if digits.isEmpty then none else some (digits, rest)
  | rest => some ([], rest)

/-- The exponent behind a numeral, of which the letter needs at least one digit. -/
def exponent? : List Char → Option (Option Int × List Char)
  | c :: rest =>
    if c = 'e' || c = 'E' then
      let (negative, rest) :=
        match rest with
        | '-' :: rest => (true, rest)
        | '+' :: rest => (false, rest)
        | rest => (false, rest)
      let (digits, rest) := digitsOf rest
      if digits.isEmpty then none
      else
        let n : Int := Number.digitsValue digits
        some (some (if negative then -n else n), rest)
    else some (none, c :: rest)
  | [] => some (none, [])

/-- The number with a sign, digits, digits of a fraction and an exponent. -/
def number? (limits : Limits) (negative : Bool) (whole fraction : List Char)
    (exponent : Option Int) : Option Document :=
  let digits := Number.digitsValue (whole ++ fraction)
  let real :=
    (Number.Binary64.ofDecimal? negative digits (exponent.getD 0 - fraction.length)).map
      Document.real
  if fraction.isEmpty && exponent.isNone then
    let n : Int := if negative then -(digits : Int) else digits
    match limits.integers with
    | none => some (.integer n)
    | some (low, high) => if low ≤ n ∧ n ≤ high then some (.integer n) else real
  else real

/-- A number and what follows it. -/
def numberHead? (limits : Limits) (input : List Char) : Option (Document × List Char) := do
  let (negative, input) :=
    match input with
    | '-' :: rest => (true, rest)
    | rest => (false, rest)
  let (whole, rest) := digitsOf input
  if whole.isEmpty || (whole.head? == some '0' && whole.length != 1) then none
  let (fraction, rest) ← fraction? rest
  let (exponent, rest) ← exponent? rest
  return (← number? limits negative whole fraction exponent, rest)

mutual

/-- A value and what follows it. The fuel bounds the characters read, and `depth` how many levels
    may still be opened. -/
def value? (limits : Limits) : Nat → Nat → List Char → Option (Document × List Char)
  | 0, _, _ => none
  | fuel + 1, depth, input =>
    match skipBlanks input with
    | 'n' :: 'u' :: 'l' :: 'l' :: rest => some (.null, rest)
    | 't' :: 'r' :: 'u' :: 'e' :: rest => some (.bool true, rest)
    | 'f' :: 'a' :: 'l' :: 's' :: 'e' :: rest => some (.bool false, rest)
    | '"' :: rest => (textTail [] rest).map fun (s, rest) => (.text s, rest)
    | '[' :: rest =>
      match depth with
      | 0 => none
      | depth + 1 =>
        match skipBlanks rest with
        | ']' :: rest => some (.list [], rest)
        | rest => elements? limits fuel depth [] rest
    | '\x7b' :: rest =>
      match depth with
      | 0 => none
      | depth + 1 =>
        match skipBlanks rest with
        | '\x7d' :: rest => some (.object [], rest)
        | rest => fields? limits fuel depth [] rest
    | rest => numberHead? limits rest

/-- The elements of a list behind those already read, last one first. -/
def elements? (limits : Limits) :
    Nat → Nat → List Document → List Char → Option (Document × List Char)
  | 0, _, _, _ => none
  | fuel + 1, depth, done, input =>
    match value? limits fuel depth input with
    | none => none
    | some (element, rest) =>
      match skipBlanks rest with
      | ',' :: rest => elements? limits fuel depth (element :: done) rest
      | ']' :: rest => some (.list (element :: done).reverse, rest)
      | _ => none

/-- The fields of an object behind those already read. -/
def fields? (limits : Limits) :
    Nat → Nat → List (String × Document) → List Char → Option (Document × List Char)
  | 0, _, _, _ => none
  | fuel + 1, depth, done, input =>
    match skipBlanks input with
    | '"' :: rest =>
      match textTail [] rest with
      | none => none
      | some (name, rest) =>
        match skipBlanks rest with
        | ':' :: rest =>
          match value? limits fuel depth rest with
          | none => none
          | some (value, rest) =>
            match skipBlanks rest with
            | ',' :: rest => fields? limits fuel depth (setField done name value) rest
            | '\x7d' :: rest => some (.object (setField done name value), rest)
            | _ => none
        | _ => none
    | _ => none

end

/-- Reads a document that is a whole text. -/
def ofChars? (limits : Limits) (input : List Char) : Option Document :=
  match value? limits (input.length + 1) limits.depth input with
  | some (document, rest) => if (skipBlanks rest).isEmpty then some document else none
  | none => none

/-- Reads a document that is a whole file. -/
def ofBytes? (limits : Limits) (bytes : List UInt8) : Option Document :=
  match Text.Utf8.decode bytes with
  | .ok chars => ofChars? limits chars
  | .error _ => none

end JavadocRepair.Document
