import DocumentTypes.Number.Decimal
import DocumentTypes.Text.Hexadecimal

/-! # Resolution of scalars

What a scalar text stands for when it is read as null, a boolean, a whole number or
a real number. Whole numbers are decimal, hexadecimal, octal or binary; a decimal
number with a leading zero is none. -/

namespace DocumentTypes.Yaml

/-! ## Words -/

def isNullWord (text : String) : Bool := ["null", "Null", "NULL", "~"].contains text

def booleanWord? (text : String) : Option Bool :=
  if ["true", "True", "TRUE"].contains text then some true
  else if ["false", "False", "FALSE"].contains text then some false
  else none

/-! ## Whole numbers -/

def digitsInBase? (base : Nat) (digits : List Char) : Option Nat :=
  if digits.isEmpty then none
  else digits.foldlM (fun value digit => do
    let digit ← Text.hexDigit? digit
    if digit < base then some (value * base + digit) else none) 0

def hasLeadingZero (digits : List Char) : Bool :=
  match digits with
  | '0' :: rest => !rest.isEmpty && rest.all Char.isDigit
  | _ => false

def unsigned? : List Char → Option Nat
  | '0' :: 'x' :: digits => digitsInBase? 16 digits
  | '0' :: 'o' :: digits => digitsInBase? 8 digits
  | '0' :: 'b' :: digits => digitsInBase? 2 digits
  | digits => if hasLeadingZero digits then none else digitsInBase? 10 digits

def integer? (text : String) : Option Int :=
  match text.toList with
  | '+' :: digits => (unsigned? digits).map Int.ofNat
  | '-' :: digits => (unsigned? digits).map fun magnitude => -(magnitude : Int)
  | digits => (unsigned? digits).map Int.ofNat

def natural? (text : String) : Option Nat :=
  match text.toList with
  | '+' :: digits => unsigned? digits
  | digits => unsigned? digits

def isZeroPadded (text : String) : Bool :=
  match text.toList with
  | '+' :: digits => hasLeadingZero digits
  | '-' :: digits => hasLeadingZero digits
  | digits => hasLeadingZero digits

example : integer? "-0x1F" = some (-31) := by decide +kernel
example : integer? "+0o17" = some 15 := by decide +kernel
example : integer? "017" = none := by decide +kernel
example : integer? "0" = some 0 := by decide +kernel
example : natural? "-0" = none := by decide +kernel

/-! ## Real numbers -/

/-- A decimal number within the range of doubles, or one of the words for the
numbers that have no digits. -/
def real? (text : String) : Option Binary64 :=
  let unsigned := match text.toList with
    | '+' :: rest => if rest.head?.any fun sign => sign == '+' || sign == '-' then none
      else some (String.ofList rest)
    | _ => some text
  unsigned.bind fun unsigned =>
    if [".inf", ".Inf", ".INF"].contains unsigned then some (.infinity false)
    else if ["-.inf", "-.Inf", "-.INF"].contains text then some (.infinity true)
    else if [".nan", ".NaN", ".NAN"].contains text then some .nan
    else (Decimal.readReal? unsigned).filter Binary64.isFinite

example : real? "1e400" = none := by decide +kernel
example : real? "-.inf" = some (.infinity true) := by decide +kernel
example : real? "+-1" = none := by decide +kernel

end DocumentTypes.Yaml
