import DocumentTypes.Text.Hexadecimal
import DocumentTypes.Unicode.CodeSet

/-! # Tables of code points

A set of code points written as text: single code points and inclusive ranges in
hexadecimal, separated by blanks, as in `41-5A 61-7A B5`. A range followed by a slash
and a number holds every so manieth code point only, beginning with its first: `41-45/2`
stands for `41 43 45`. -/

namespace DocumentTypes.Unicode

/-- An entry of a table as it is read: the numbers so far, and which of them the next
digit extends. -/
inductive TableEntry
  | single (code : Nat)
  | range (first last : Nat)
  | stepped (first last step : Nat)

namespace TableEntry

def next (entry : TableEntry) (character : Char) : TableEntry :=
  match entry, Text.hexDigit? character with
  | single code, some digit => single (code * 16 + digit)
  | range first last, some digit => range first (last * 16 + digit)
  | stepped first last step, some digit => stepped first last (step * 16 + digit)
  | single first, none => range first 0
  | range first last, none => stepped first last 0
  | stepped first last step, none => stepped first last step

def spans : TableEntry → List Span
  | single code => [.single code]
  | range first last => (Span.below? first (last + 1)).toList
  | stepped first last step =>
    (List.range ((last - first) / step + 1)).map fun count => .single (first + count * step)

end TableEntry

/-- The spans of a table, given the entry that the text continues. -/
def tableSpans (entry : TableEntry) : List Char → List Span
  | [] => entry.spans
  | character :: rest =>
    if character == ' ' then entry.spans ++ tableSpans (.single 0) rest
    else tableSpans (entry.next character) rest

def CodeSet.read (text : String) : CodeSet :=
  .ofSpans (tableSpans (.single 0) text.toList)

example : (CodeSet.read "41-45/2 61-7A B5").spans.map (fun span => (span.first, span.last)) =
    [(0x41, 0x41), (0x43, 0x43), (0x45, 0x45), (0x61, 0x7a), (0xb5, 0xb5)] := by
  decide +kernel

end DocumentTypes.Unicode
