import DocumentTypes.Number.Decimal
import DocumentTypes.Unicode.Digit

/-! # Property paths

A path names a property inside a document by field names separated by slashes. An
element of a list is written either as a segment of its own, `files/3`, or behind
the name, `files/file[3]`; the canonical form uses only the first and does not
begin with a slash. -/

namespace DocumentTypes.Path

def wildcard : String := "*"

/-- Characters that end a name: the separator and the brackets. -/
def isDelimiter (character : Char) : Bool :=
  character == '/' || character == '[' || character == ']'

/-- The index that a bracket holds, given the text after the opening bracket: a run
of digits or an asterisk, closed at once. -/
def bracketIndex? (text : List Char) : Option (List Char) :=
  match text with
  | '*' :: ']' :: _ => some ['*']
  | _ =>
    let digits := text.takeWhile Unicode.isDecimalDigit
    if !digits.isEmpty && (text.drop digits.length).head? == some ']' then some digits
    else none

/-- Replace every indexed name by its index, from left to right. The first
argument counts characters that an index has already used up; the second holds the
name being read, backwards. -/
def replaceIndexed : Nat → List Char → List Char → List Char
  | _, name, [] => name.reverse
  | used + 1, name, _ :: rest => replaceIndexed used name rest
  | 0, name, character :: rest =>
    if !isDelimiter character then replaceIndexed 0 (character :: name) rest
    else
      match if character = '[' && !name.isEmpty then bracketIndex? rest else none with
      | some index => index ++ replaceIndexed (index.length + 1) [] rest
      | none => name.reverse ++ character :: replaceIndexed 0 [] rest

/-- The canonical form: at most one leading slash is removed, and `name[i]` becomes
`i`. -/
def canonical (path : String) : String :=
  let relative := match path.toList with
    | '/' :: rest => rest
    | characters => characters
  String.ofList (replaceIndexed 0 [] relative)

def isListIndex (segment : String) : Bool :=
  segment == wildcard ||
    (Decimal.readIntWithin? (-Int.pow 2 63) (Int.pow 2 63 - 1) segment).isSome

/-! ## Segments -/

/-- Split at every occurrence of the separator; there is always one more segment
than there are separators. -/
def splitChars (separator : Char) : List Char → List (List Char)
  | [] => [[]]
  | character :: rest =>
    if character = separator then [] :: splitChars separator rest
    else match splitChars separator rest with
      | first :: others => (character :: first) :: others
      | [] => [[character]]

def splitOn (separator : Char) (text : String) : List String :=
  (splitChars separator text.toList).map String.ofList

def segments (path : String) : List String := splitOn '/' path

example : canonical "/files/file[3]/name" = "files/3/name" := by decide +kernel
example : canonical "//x" = "/x" := by decide +kernel
example : canonical "a[1]b[2]" = "12" := by decide +kernel
example : canonical "a[x]" = "a[x]" := by decide +kernel
example : isListIndex "+12" = true := by decide +kernel
example : isListIndex "9223372036854775808" = false := by decide +kernel
example : segments "a//b" = ["a", "", "b"] := by decide +kernel

end DocumentTypes.Path
