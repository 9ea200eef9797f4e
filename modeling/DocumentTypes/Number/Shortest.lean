import DocumentTypes.Number.Decimal

/-! # Shortest decimal text of a double

A decimal reads back as a given double when it lies in the interval of reals that
round to it; the ends belong to the interval when the significand is even. The
shortest text has the fewest significant digits with which some decimal lies in
that interval, and among those the digits nearest the double. If any point of a
decimal grid lies in the interval, so does one of the two grid points beside the
double, so only those two are tried. -/

namespace DocumentTypes.Shortest

/-- Which of two equally near digit strings is taken. -/
inductive Tie
  | upward
  | even
  deriving DecidableEq, Repr

/-- The decimal number `digits * 10 ^ exponent`. -/
structure Significant where
  digits : Nat
  exponent : Int
  deriving DecidableEq, Repr

/-! Magnitudes are counted in quarters of `2^-1074`, so that the middle between
two neighbouring doubles is a whole number. -/

def one : Nat := Nat.pow 2 1076

structure Interval where
  low : Nat
  center : Nat
  high : Nat
  closed : Bool

/-- The interval of magnitudes that round to a finite double. Below a power of two
the gap is half as wide, except among the subnormals. -/
def interval (number : Binary64) : Interval :=
  let unit := Nat.pow 2 number.unitExponent
  let center := 4 * number.magnitude
  let below := if number.fraction = 0 && 1 < number.exponentField then unit else 2 * unit
  { low := center - below, center, high := center + 2 * unit
    closed := number.significand % 2 == 0 }

def Interval.contains (range : Interval) (scale point : Nat) : Bool :=
  if range.closed then
    range.low * scale ≤ point && point ≤ range.high * scale
  else
    range.low * scale < point && point < range.high * scale

/-- The exponent of the leading decimal digit of a positive magnitude. -/
def leadingExponent (magnitude : Nat) : Int :=
  let estimate : Int :=
    (Nat.toDigits 10 magnitude).length - (Nat.toDigits 10 one).length
  let atLeast := if estimate < 0 then one ≤ magnitude * Nat.pow 10 estimate.natAbs
    else one * Nat.pow 10 estimate.natAbs ≤ magnitude
  if atLeast then estimate else estimate - 1

/-- The decimal on the grid of step `10 ^ exponent` that lies in the interval and
is nearest its center. -/
def onGrid? (tie : Tie) (range : Interval) (exponent : Int) : Option Significant :=
  let scale := if exponent < 0 then Nat.pow 10 exponent.natAbs else 1
  let step := if exponent < 0 then one else one * Nat.pow 10 exponent.natAbs
  let center := range.center * scale
  let lower := center / step
  let upper := lower + 1
  let downward := center - lower * step
  let upward := upper * step - center
  let preferUpper := upward < downward ||
    (upward == downward && (tie == .upward || lower % 2 == 1))
  match range.contains scale (lower * step), range.contains scale (upper * step) with
  | true, true => some ⟨if preferUpper then upper else lower, exponent⟩
  | true, false => some ⟨lower, exponent⟩
  | false, true => some ⟨upper, exponent⟩
  | false, false => none

/-- Move trailing zeros, which appear when rounding carries, into the exponent. -/
def Significant.strip (fuel : Nat) (number : Significant) : Significant :=
  match fuel with
  | 0 => number
  | fuel + 1 =>
    if number.digits % 10 = 0 && number.digits != 0 then
      Significant.strip fuel ⟨number.digits / 10, number.exponent + 1⟩
    else number

/-- The shortest digits of a finite, non-zero double. Seventeen digits always
suffice. -/
def significant (tie : Tie) (number : Binary64) : Significant :=
  let range := interval number
  let leading := leadingExponent range.center
  let found := (List.range 17).findSome? fun (places : Nat) =>
    onGrid? tie range (leading - (places : Int))
  (found.getD ⟨0, 0⟩).strip 17

/-! ## Layout -/

def zeros (count : Int) : String := String.ofList (List.replicate count.toNat '0')

/-- Digits with the point after the first `position` of them, filled with zeros on
either side; no point when nothing stands behind it. -/
def positional (number : Significant) : String :=
  let digits := Decimal.writeNat number.digits
  let position : Int := digits.length + number.exponent
  if 0 ≤ number.exponent then digits ++ zeros number.exponent
  else if 0 < position then
    let characters := digits.toList
    String.ofList (characters.take position.toNat) ++ "." ++
      String.ofList (characters.drop position.toNat)
  else "0." ++ zeros (-position) ++ digits

/-- The text of a double: shortest digits, never an exponent, and no point in a
whole number. -/
def write (number : Binary64) : String :=
  let sign := if number.isNegative then "-" else ""
  if number.isNaN then "NaN"
  else if number.isInfinite then sign ++ "inf"
  else if number.magnitude = 0 then sign ++ "0"
  else sign ++ positional (significant .upward number)

example : write (Binary64.ofInt 1) = "1" := by decide +kernel
example : write ⟨0x8000000000000000⟩ = "-0" := by decide +kernel
example : write ⟨0x3fb999999999999a⟩ = "0.1" := by decide +kernel
example : write ⟨0x1⟩ =
    "0." ++ String.ofList (List.replicate 323 '0') ++ "5" := by decide +kernel
example : write ⟨0x444b1ae4d6e2ef50⟩ = "1000000000000000000000" := by decide +kernel

/-! A tie between the two neighbours: `2^-25` is exactly halfway. -/

example : (significant .upward ⟨0x3e60000000000000⟩).digits = 29802322387695313 := by
  decide +kernel
example : (significant .even ⟨0x3e60000000000000⟩).digits = 29802322387695312 := by
  decide +kernel

end DocumentTypes.Shortest
