/-!
# Binary floating-point numbers

A finite number of the 64-bit binary format as its sign, significand and exponent: it is worth
`significand * 2 ^ exponent`, where the significand has 53 bits, or fewer if the exponent is the
least one. A decimal numeral is rounded to the nearest of these numbers, and half-way to the one
with the even significand. All arithmetic is on natural numbers and exact.
-/

namespace JavadocRepair.Number

/-- A finite number of the 64-bit binary format. -/
structure Binary64 where
  negative : Bool
  significand : Nat
  exponent : Int
  deriving Repr, DecidableEq

/-- The quotient rounded to the nearest number, half-way to the even one. -/
def roundedQuotient (num den : Nat) : Nat :=
  let quotient := num / den
  let twice := 2 * (num % den)
  if twice < den then quotient
  else if den < twice then quotient + 1
  else quotient + quotient % 2

namespace Binary64

/-- The exponent of the smallest numbers. -/
def leastExponent : Int := -1074

/-- The exponent of the largest numbers. -/
def greatestExponent : Int := 971

/-- A fraction with its value divided by a power of two. -/
def scaled (num den : Nat) (exponent : Int) : Nat × Nat :=
  if 0 ≤ exponent then (num, den * Nat.pow 2 exponent.toNat)
  else (num * Nat.pow 2 (-exponent).toNat, den)

/-- The exponent at which a positive fraction has a significand of 53 bits, or the least one. -/
def exponentOf (num den : Nat) : Int :=
  let estimate : Int := (num.log2 : Int) - (den.log2 : Int) - 53
  let (n, d) := scaled num den estimate
  max leastExponent (if n / d < Nat.pow 2 53 then estimate else estimate + 1)

/-- The number nearest to a fraction, if there is one. -/
def ofFraction? (negative : Bool) (num den : Nat) : Option Binary64 :=
  if num = 0 then some ⟨negative, 0, leastExponent⟩
  else
    let exponent := exponentOf num den
    let (n, d) := scaled num den exponent
    let significand := roundedQuotient n d
    let rounded : Binary64 :=
      if significand < Nat.pow 2 53 then ⟨negative, significand, exponent⟩
      else ⟨negative, significand / 2, exponent + 1⟩
    if rounded.exponent ≤ greatestExponent then some rounded else none

/-- The number nearest to `digits * 10 ^ power`, if there is one. Powers so great or so small that
    the outcome is plain are not computed. -/
def ofDecimal? (negative : Bool) (digits : Nat) (power : Int) : Option Binary64 :=
  if digits = 0 then some ⟨negative, 0, leastExponent⟩
  else if 400 < power then none
  else if power + digits.log2 < -400 then some ⟨negative, 0, leastExponent⟩
  else if 0 ≤ power then ofFraction? negative (digits * Nat.pow 10 power.toNat) 1
  else ofFraction? negative digits (Nat.pow 10 (-power).toNat)

/-- The number as an integer, if it is one. -/
def toInt? (x : Binary64) : Option Int :=
  let sign : Int := if x.negative then -1 else 1
  if 0 ≤ x.exponent then some (sign * (x.significand * Nat.pow 2 x.exponent.toNat : Nat))
  else
    let unit := Nat.pow 2 (-x.exponent).toNat
    if x.significand % unit = 0 then some (sign * (x.significand / unit : Nat)) else none

end Binary64

end JavadocRepair.Number
