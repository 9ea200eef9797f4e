/-! # Hexadecimal digits -/

namespace DocumentTypes.Text

def hexDigit? (character : Char) : Option Nat :=
  if '0' ≤ character && character ≤ '9' then some (character.toNat - '0'.toNat)
  else if 'A' ≤ character && character ≤ 'F' then some (character.toNat - 'A'.toNat + 10)
  else if 'a' ≤ character && character ≤ 'f' then some (character.toNat - 'a'.toNat + 10)
  else none

/-- The digits of a number, in lower case and without leading zeros. -/
def hexDigits (value : Nat) : List Char := Nat.toDigits 16 value

example : (hexDigits 0x10fa).map hexDigit? = [some 1, some 0, some 15, some 10] := by
  decide +kernel

end DocumentTypes.Text
