/-! # Binary floating-point numbers

A double is its 64 bits. Every non-NaN double is read as an exact integer count
of the smallest subnormal, `2^-1074`; the same reading of the infinities gives
`2^1024` in those units, just beyond the largest finite magnitude. Comparison,
conversion and rounding are therefore integer arithmetic, and none of them uses
the machine's own floating-point operations. -/

namespace DocumentTypes

structure Binary64 where
  bits : UInt64
  deriving DecidableEq, Repr, Inhabited

namespace Binary64

/-! ## Fields -/

def word (number : Binary64) : Nat := number.bits.toNat

def isNegative (number : Binary64) : Bool := Nat.pow 2 63 ≤ number.word

def exponentField (number : Binary64) : Nat := number.word / Nat.pow 2 52 % Nat.pow 2 11

def fraction (number : Binary64) : Nat := number.word % Nat.pow 2 52

def isFinite (number : Binary64) : Bool := number.exponentField != 2047

def isNaN (number : Binary64) : Bool :=
  number.exponentField == 2047 && number.fraction != 0

def isInfinite (number : Binary64) : Bool :=
  number.exponentField == 2047 && number.fraction == 0

/-- The significand as an integer, with the hidden bit of a normal number. -/
def significand (number : Binary64) : Nat :=
  if number.exponentField = 0 then number.fraction else Nat.pow 2 52 + number.fraction

/-- The exponent of the significand's unit, counted from `2^-1074`. Subnormal
numbers share the unit of the first normal binade. -/
def unitExponent (number : Binary64) : Nat := number.exponentField - 1

def magnitude (number : Binary64) : Nat := number.significand * Nat.pow 2 number.unitExponent

def scaled (number : Binary64) : Int :=
  if number.isNegative then -(number.magnitude : Int) else number.magnitude

/-! ## Comparison

A NaN is unordered with every number, itself included; the two zeros are
equal. -/

def equal (left right : Binary64) : Bool :=
  !left.isNaN && !right.isNaN && left.scaled == right.scaled

def lessThan (left right : Binary64) : Bool :=
  !left.isNaN && !right.isNaN && left.scaled < right.scaled

def atMost (left right : Binary64) : Bool :=
  !left.isNaN && !right.isNaN && left.scaled ≤ right.scaled

/-! ## Rounding

`roundHalfEven` is the integer nearest a quotient. A magnitude is rounded in the
unit of its own binade, and because the encoding of doubles is monotone the
rounded significand can simply be added to the exponent field: a carry out of
the significand lands in the next binade by itself. -/

/-- The integer nearest `numerator / denominator`; a tie goes to the even one. -/
def roundHalfEven (numerator denominator : Nat) : Nat :=
  let quotient := numerator / denominator
  let remainder := numerator % denominator
  if 2 * remainder < denominator then quotient
  else if denominator < 2 * remainder then quotient + 1
  else quotient + quotient % 2

/-- The encoding of positive infinity; a NaN's encoding is larger. -/
def infinityWord : Nat := 2047 * Nat.pow 2 52

/-- The encoding of the double nearest `numerator / denominator` units of
`2^-1074`. -/
def roundMagnitude (numerator denominator : Nat) : Nat :=
  let binade := (numerator / denominator).log2 - 52
  min infinityWord
    (binade * Nat.pow 2 52 + roundHalfEven numerator (denominator * Nat.pow 2 binade))

def ofWord (negative : Bool) (word : Nat) : Binary64 :=
  ⟨UInt64.ofNat (if negative then Nat.pow 2 63 + word else word)⟩

/-- The double nearest the fraction `numerator / denominator`, with the given
sign. -/
def ofFraction (negative : Bool) (numerator denominator : Nat) : Binary64 :=
  ofWord negative (roundMagnitude (numerator * Nat.pow 2 1074) denominator)

def ofInt (value : Int) : Binary64 :=
  ofFraction (value < 0) value.natAbs 1

def zero : Binary64 := ⟨0⟩

def infinity (negative : Bool) : Binary64 := ofWord negative infinityWord

def nan : Binary64 := ⟨0x7ff8000000000000⟩

example : (ofInt 1).bits = 0x3ff0000000000000 := by decide +kernel
example : (ofFraction true 1 10).bits = 0xbfb999999999999a := by decide +kernel
example : (ofInt 9007199254740993).bits = (ofInt 9007199254740992).bits := by decide +kernel
example : ofInt (Int.pow 2 1024) = infinity false := by decide +kernel
example : ofFraction false 1 (Nat.pow 2 1075) = zero := by decide +kernel

/-! ## Whole numbers -/

def toInt? (number : Binary64) : Option Int :=
  if number.isFinite && number.scaled % Int.pow 2 1074 == 0 then
    some (number.scaled / Int.pow 2 1074)
  else
    none

example : (ofInt (-3)).toInt? = some (-3) := by decide +kernel
example : (ofFraction false 7 2).toInt? = none := by decide +kernel
example : (infinity false).toInt? = none := by decide +kernel

end Binary64
end DocumentTypes
