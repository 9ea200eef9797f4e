/-! # Order of texts

Texts are ordered code point by code point, a text before its continuations. -/

namespace DocumentTypes.Text

def atMost (left right : String) : Bool := !(right < left)

def sort (texts : List String) : List String := texts.mergeSort atMost

example : atMost "a" "aZ" = true := by decide +kernel
example : atMost "a\u00e9" "aZ" = false := by decide +kernel
example : sort ["b", "a"] = ["a", "b"] := by cbv

end DocumentTypes.Text
