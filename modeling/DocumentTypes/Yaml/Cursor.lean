/-! # Places in a text

A place is the text that is left, with the number of bytes and lines before it and of
characters before it in its line. A carriage return followed by a line feed is one line break. -/

namespace DocumentTypes.Yaml

def isBlank (character : Char) : Bool := character == ' ' || character == '\t'

def isBreak (character : Char) : Bool :=
  character == '\n' || character == '\r' || character == '\u0085' ||
    character == '\u2028' || character == '\u2029'

def isWordCharacter (character : Char) : Bool :=
  character.isAlphanum || character == '_' || character == '-'

def isAdmitted (character : Char) : Bool :=
  let code := character.toNat
  code == 0x09 || code == 0x0a || code == 0x0d || (0x20 ≤ code && code ≤ 0x7e) ||
    code == 0x85 || (0xa0 ≤ code && code ≤ 0xfffd) || 0x10000 ≤ code

structure Cursor where
  rest : List Char
  offset : Nat
  line : Nat
  column : Nat

def byteLength (characters : List Char) : Nat :=
  characters.foldl (fun length character => length + character.utf8Size) 0

namespace Cursor

def start (text : List Char) : Cursor := ⟨text, 0, 0, 0⟩

def head? (cursor : Cursor) : Option Char := cursor.rest.head?

def atEnd (cursor : Cursor) : Bool := cursor.rest.isEmpty

def looksAt (cursor : Cursor) (text : List Char) : Bool := text.isPrefixOf cursor.rest

/-- Whether a condition holds of the character at some distance; none holds at the
end. -/
def holdsAt (cursor : Cursor) (distance : Nat) (condition : Char → Bool) : Bool :=
  (cursor.rest.drop distance).head?.any condition

/-- Whether a blank, a line break or the end stands at some distance. -/
def separatedAt (cursor : Cursor) (distance : Nat) : Bool :=
  (cursor.rest.drop distance).head?.all fun character => isBlank character || isBreak character

def atLineEnd (cursor : Cursor) : Bool := cursor.head?.all isBreak

def skip (cursor : Cursor) (count : Nat) : Cursor :=
  { cursor with
    rest := cursor.rest.drop count
    offset := cursor.offset + byteLength (cursor.rest.take count)
    column := cursor.column + count }

def takeWhile (cursor : Cursor) (condition : Char → Bool) : List Char × Cursor :=
  let taken := cursor.rest.takeWhile condition
  (taken, cursor.skip taken.length)

def skipWhile (cursor : Cursor) (condition : Char → Bool) : Cursor :=
  (cursor.takeWhile condition).2

/-- Step over a line break, if there is one here. The break is returned in its
normal form: only the two separators of Unicode stand for themselves. -/
def takeBreak (cursor : Cursor) : List Char × Cursor :=
  let next (count : Nat) : Cursor :=
    { rest := cursor.rest.drop count
      offset := cursor.offset + byteLength (cursor.rest.take count)
      line := cursor.line + 1
      column := 0 }
  match cursor.rest with
  | '\r' :: '\n' :: _ => (['\n'], next 2)
  | character :: _ =>
    if character == '\u2028' || character == '\u2029' then ([character], next 1)
    else if isBreak character then (['\n'], next 1)
    else ([], cursor)
  | [] => ([], cursor)

def skipBreak (cursor : Cursor) : Cursor := cursor.takeBreak.2

/-- Step over a mark of the byte order at the beginning of a line. -/
def skipByteOrderMark (cursor : Cursor) : Cursor :=
  if cursor.column == 0 && cursor.looksAt ['\ufeff'] then cursor.skip 1 else cursor

/-- Step over blanks and a comment to the end of the line, which has to follow. -/
def skipToLineEnd? (cursor : Cursor) : Option Cursor :=
  let cursor := cursor.skipWhile isBlank
  let cursor :=
    if cursor.looksAt ['#'] then cursor.skipWhile fun character => !isBreak character
    else cursor
  if cursor.atLineEnd then some cursor.skipBreak else none

/-- A line that begins with three hyphens or three points and nothing joined to
them separates documents. -/
def atDocumentMark (cursor : Cursor) : Bool :=
  cursor.column == 0 &&
    (cursor.looksAt ['-', '-', '-'] || cursor.looksAt ['.', '.', '.']) && cursor.separatedAt 3

end Cursor
end DocumentTypes.Yaml
