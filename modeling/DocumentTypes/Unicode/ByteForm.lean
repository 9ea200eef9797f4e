import DocumentTypes.Unicode.CodeSet

/-! # Code points as bytes

A code point is written with one to four bytes. The first tells how many there are and
holds the highest bits, and each of the others holds six bits more. The code points of a
span are written as a few forms: sequences of byte ranges, of which every combination
occurs. -/

namespace DocumentTypes.Unicode

structure ByteRange where
  first : Nat
  last : Nat
  deriving DecidableEq, Repr

abbrev ByteForm := List ByteRange

namespace ByteForm

def anyContinuation : ByteRange := ⟨0x80, 0xBF⟩

/-- The forms of the numbers from the first to the last, written with a leading byte and
a number of bytes of six bits. A leading value is written as that much above `lead`. -/
def ofNumbers (lead first last : Nat) : Nat → List ByteForm
  | 0 => [[⟨lead + first, lead + last⟩]]
  | continuations + 1 =>
    let unit := Nat.pow 64 (continuations + 1)
    let low := first / unit
    let high := last / unit
    if low = high then
      (ofNumbers 0x80 (first % unit) (last % unit) continuations).map
        (⟨lead + low, lead + low⟩ :: ·)
    else
      let startsLate := first % unit ≠ 0
      let endsEarly := last % unit + 1 ≠ unit
      let head := if startsLate then
          (ofNumbers 0x80 (first % unit) (unit - 1) continuations).map
            (⟨lead + low, lead + low⟩ :: ·)
        else []
      let tail := if endsEarly then
          (ofNumbers 0x80 0 (last % unit) continuations).map (⟨lead + high, lead + high⟩ :: ·)
        else []
      let start := if startsLate then low + 1 else low
      let stop := if endsEarly then high else high + 1
      let whole := List.replicate (continuations + 1) anyContinuation
      let middle := if start < stop then [⟨lead + start, lead + stop - 1⟩ :: whole] else []
      head ++ middle ++ tail

/-- The first and the last code point of each length, what the leading byte adds to its
bits, and the number of bytes that follow it. -/
def widths : List (Nat × Nat × Nat × Nat) := [
  (0, 0x7F, 0, 0), (0x80, 0x7FF, 0xC0, 1), (0x800, 0xFFFF, 0xE0, 2), (0x10000, 0x10FFFF, 0xF0, 3)]

def ofSpan (span : Span) : List ByteForm :=
  widths.flatMap fun (first, last, lead, continuations) =>
    let first := max first span.first
    let last := min last span.last
    if first ≤ last then ofNumbers lead first last continuations else []

def ofSet (set : CodeSet) : List ByteForm := set.spans.flatMap ofSpan

end ByteForm

def bytesOf (character : Char) : List UInt8 := String.utf8EncodeChar character

example : ByteForm.ofSpan ⟨0x70, 0x7FF, by decide⟩ =
    [[⟨0x70, 0x7F⟩], [⟨0xC2, 0xDF⟩, ⟨0x80, 0xBF⟩]] := by decide +kernel

end DocumentTypes.Unicode
