import JavadocRepair.Number.Binary64

/-!
# Shortest decimal numerals

A floating-point number is shown by the fewest digits that read back as it, and by the nearest of
these numerals. For one digit, two digits and so on, the two neighbours of the number among the
decimal numerals with so many digits are tried; seventeen digits always suffice.
-/

namespace JavadocRepair.Number

/-- A decimal numeral, worth `digits * 10 ^ power`. -/
structure Decimal where
  digits : Nat
  power : Int
  deriving Repr, DecidableEq

/-- How many decimal digits a number has. -/
def digitCount (n : Nat) : Nat :=
  (Nat.toDigits 10 n).length

namespace Decimal

/-- A fraction of which the numerator is multiplied by a power of ten, or the denominator if the
    power is negative. -/
def timesPower (num den : Nat) (power : Int) : Nat × Nat :=
  if 0 ≤ power then (num * Nat.pow 10 power.toNat, den)
  else (num, den * Nat.pow 10 (-power).toNat)

/-- The power of ten that the first digit of a positive fraction counts. -/
def firstPower (num den : Nat) : Int :=
  if den ≤ num then (digitCount (num / den) : Int) - 1
  else
    let count := digitCount (den / num)
    if den ≤ num * Nat.pow 10 (count - 1) then 1 - (count : Int) else -(count : Int)

end Decimal

/-- The numbers that round to a positive number: fractions `low`, `value` and `high` over `den`,
    where the ends belong to the interval or do not. -/
structure RoundingInterval where
  low : Nat
  value : Nat
  high : Nat
  den : Nat
  closed : Bool

/-- The numbers that round to a number with a positive significand. Below a power of two the
    neighbour is half as far away. -/
def Binary64.interval (x : Binary64) : RoundingInterval :=
  let m := x.significand
  let below := if m = Nat.pow 2 52 && Binary64.leastExponent < x.exponent then 1 else 2
  let power := x.exponent - 2
  let scale := if 0 ≤ power then Nat.pow 2 power.toNat else 1
  let den := if 0 ≤ power then 1 else Nat.pow 2 (-power).toNat
  ⟨(4 * m - below) * scale, 4 * m * scale, (4 * m + 2) * scale, den, m % 2 = 0⟩

namespace RoundingInterval

/-- A numeral lies in the interval. -/
def contains (interval : RoundingInterval) (numeral : Decimal) : Bool :=
  let (num, den) := Decimal.timesPower numeral.digits 1 numeral.power
  let left := num * interval.den
  let low := interval.low * den
  let high := interval.high * den
  if interval.closed then low ≤ left && left ≤ high else low < left && left < high

/-- The nearest numeral of the interval that counts a power of ten, if there is one. -/
def nearest? (interval : RoundingInterval) (power : Int) : Option Decimal :=
  let (num, den) := Decimal.timesPower interval.value interval.den (-power)
  let down : Decimal := ⟨num / den, power⟩
  let up : Decimal := ⟨num / den + 1, power⟩
  let twice := 2 * (num % den)
  let downNearer := twice < den || (twice = den && down.digits % 2 = 0)
  match interval.contains down, interval.contains up with
  | true, true => some (if downNearer then down else up)
  | true, false => some down
  | false, true => some up
  | false, false => none

end RoundingInterval

/-- A numeral without its trailing zeros, of which at most `fuel` are dropped. -/
def Decimal.dropZeros (numeral : Decimal) : Nat → Decimal
  | 0 => numeral
  | fuel + 1 =>
    if numeral.digits % 10 = 0 then dropZeros ⟨numeral.digits / 10, numeral.power + 1⟩ fuel
    else numeral

/-- The shortest numeral of a number, whose sign is left out. -/
def Binary64.shortest (x : Binary64) : Decimal :=
  if x.significand = 0 then ⟨0, 0⟩
  else
    let interval := x.interval
    let first := Decimal.firstPower interval.value interval.den
    let numeral :=
      (List.range 17).findSome? fun (more : Nat) => interval.nearest? (first - (more : Int))
    (numeral.getD ⟨x.significand, 0⟩).dropZeros 17

/-- How numerals are laid out: the first digit may count powers from `leastPower` up to below
    `powerLimit` in positional notation, and exponents have at least `exponentWidth` digits. -/
structure Layout where
  leastPower : Int
  powerLimit : Int
  exponentWidth : Nat

/-- Positional notation with at least one digit on each side of the point. -/
def Decimal.positional (numeral : Decimal) : String :=
  let digits := (Nat.toDigits 10 numeral.digits)
  if 0 ≤ numeral.power then
    String.ofList (digits ++ List.replicate numeral.power.toNat '0') ++ ".0"
  else
    let places := (-numeral.power).toNat
    let padded := List.replicate (places + 1 - digits.length) '0' ++ digits
    let whole := padded.take (padded.length - places)
    String.ofList whole ++ "." ++ String.ofList (padded.drop (padded.length - places))

/-- Notation with an exponent: one digit in front of the point, which is left out if none
    follows. -/
def Decimal.scientific (numeral : Decimal) (exponentWidth : Nat) : String :=
  let digits := Nat.toDigits 10 numeral.digits
  let exponent := numeral.power + (digits.length - 1 : Nat)
  let shown := Nat.toDigits 10 exponent.natAbs
  let padded := List.replicate (exponentWidth - shown.length) '0' ++ shown
  let fraction := digits.drop 1
  String.ofList (digits.take 1)
    ++ (if fraction.isEmpty then "" else "." ++ String.ofList fraction)
    ++ (if exponent < 0 then "e-" else "e+") ++ String.ofList padded

/-- A number in its shortest form. -/
def Binary64.render (layout : Layout) (x : Binary64) : String :=
  let numeral := x.shortest
  let first := numeral.power + (digitCount numeral.digits : Int) - 1
  let unsigned :=
    if layout.leastPower ≤ first ∧ first < layout.powerLimit then numeral.positional
    else numeral.scientific layout.exponentWidth
  if x.negative then "-" ++ unsigned else unsigned

end JavadocRepair.Number
