import DocumentTypes.Number.Binary64

/-! # Decimal text

Whole numbers are written canonically: no leading zero, a minus sign and never a
plus. They are read more liberally, with either sign and any number of leading
zeros. Real numbers are read as a digit string with an optional point and an
optional power of ten, and become the double nearest that decimal value. Digits
are ASCII digits throughout. -/

namespace DocumentTypes.Decimal

/-! ## Whole numbers -/

def writeNat (value : Nat) : String := String.ofList (Nat.toDigits 10 value)

def writeInt (value : Int) : String :=
  if value < 0 then "-" ++ writeNat value.natAbs else writeNat value.natAbs

def readDigits? (digits : List Char) : Option Nat :=
  if !digits.isEmpty && digits.all Char.isDigit then
    some (Nat.ofDigitChars 10 digits 0)
  else
    none

def readInt? (text : String) : Option Int :=
  match text.toList with
  | '-' :: digits => (readDigits? digits).map fun magnitude => -(magnitude : Int)
  | '+' :: digits => (readDigits? digits).map Int.ofNat
  | digits => (readDigits? digits).map Int.ofNat

def readIntWithin? (least greatest : Int) (text : String) : Option Int :=
  (readInt? text).filter fun value => least ≤ value && value ≤ greatest

example : writeInt (-120) = "-120" := by cbv
example : readInt? "+007" = some 7 := by cbv
example : readInt? "1_000" = none := by cbv
example : readIntWithin? (-128) 127 "128" = none := by cbv

/-! ## Real numbers -/

def spanDigits (text : List Char) : List Char × List Char :=
  (text.takeWhile Char.isDigit, text.dropWhile Char.isDigit)

/-- The power of ten after a mantissa: nothing, or `e` with an optional sign and
at least one digit, up to the end of the text. -/
def readExponent? : List Char → Option Int
  | [] => some 0
  | mark :: rest =>
    if mark == 'e' || mark == 'E' then readInt? (String.ofList rest) else none

/-- Digits with an optional point, then an exponent: the value is the first
component times ten to the second. At least one digit is needed, on either side
of the point. -/
def readScientific? (text : List Char) : Option (Nat × Int) :=
  let (whole, rest) := spanDigits text
  let (places, rest) := match rest with
    | '.' :: tail => spanDigits tail
    | _ => ([], rest)
  if whole.isEmpty && places.isEmpty then none
  else (readExponent? rest).map fun exponent =>
    (Nat.ofDigitChars 10 (whole ++ places) 0, exponent - places.length)

example : readScientific? ".5e1".toList = some (5, 0) := by cbv
example : readScientific? "5.".toList = some (5, 0) := by cbv
example : readScientific? ".".toList = none := by cbv
example : readScientific? "1e".toList = none := by cbv

/-- The double nearest `digits * 10 ^ exponent`. The two cut-offs lie well
outside the range of doubles and keep the powers of ten small. -/
def toBinary64 (negative : Bool) (digits : Nat) (exponent : Int) : Binary64 :=
  let size := (Nat.toDigits 10 digits).length + exponent
  if digits = 0 || size < -330 then Binary64.ofWord negative 0
  else if 320 < size then Binary64.infinity negative
  else if exponent < 0 then Binary64.ofFraction negative digits (Nat.pow 10 exponent.natAbs)
  else Binary64.ofFraction negative (digits * Nat.pow 10 exponent.natAbs) 1

def readSpecial? (negative : Bool) (text : List Char) : Option Binary64 :=
  match String.ofList (text.map Char.toLower) with
  | "inf" | "infinity" => some (Binary64.infinity negative)
  | "nan" => some Binary64.nan
  | _ => none

/-- An optional sign, then a decimal number or a special word. -/
def readReal? (text : String) : Option Binary64 :=
  let (negative, unsigned) := match text.toList with
    | '-' :: rest => (true, rest)
    | '+' :: rest => (false, rest)
    | rest => (false, rest)
  match readScientific? unsigned with
  | some (digits, exponent) => some (toBinary64 negative digits exponent)
  | none => readSpecial? negative unsigned

example : (readReal? "-0.1").map Binary64.bits = some 0xbfb999999999999a := by decide +kernel
example : readReal? "1e999" = some (Binary64.infinity false) := by decide +kernel
example : readReal? "+Infinity" = some (Binary64.infinity false) := by decide +kernel
example : readReal? "0x10" = none := by decide +kernel

end DocumentTypes.Decimal
