/-! # White space

The characters with the standard's White_Space property, and the removal of them
at both ends of a text. -/

namespace DocumentTypes.Text

def isBlank (character : Char) : Bool :=
  let code := character.toNat
  (9 ≤ code && code ≤ 13) || code == 0x20 || code == 0x85 || code == 0xa0 ||
    code == 0x1680 || (0x2000 ≤ code && code ≤ 0x200a) || code == 0x2028 ||
    code == 0x2029 || code == 0x202f || code == 0x205f || code == 0x3000

def trimChars (text : List Char) : List Char :=
  ((text.dropWhile isBlank).reverse.dropWhile isBlank).reverse

def trim (text : String) : String := String.ofList (trimChars text.toList)

theorem isBlank_of_isDigit {character : Char} (digit : character.isDigit = true) :
    isBlank character = false := by
  simp only [Char.isDigit, Bool.and_eq_true, decide_eq_true_eq, ge_iff_le, UInt32.le_iff_toNat_le]
    at digit
  have code : 48 ≤ character.toNat ∧ character.toNat ≤ 57 := digit
  simp [isBlank]
  omega

example : trim "\u3000 a b\u0085\n" = "a b" := by cbv
example : trim "\u200ba" = "\u200ba" := by cbv

end DocumentTypes.Text
