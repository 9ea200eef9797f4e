import DocumentTypes.Text.Hexadecimal
import DocumentTypes.Unicode.Recent

/-! # Quoted text

The form in which messages show a text: between double quotes, with quotes,
backslashes and the common control characters escaped by a backslash. Any other
character that would not show, or would attach to the one before it, is written
by its code point. -/

namespace DocumentTypes.Text

/-- The voiced sound marks of half width are seen beside the letter before them, not
on it. -/
def halfWidthMarks : Unicode.CodeSet := .read "FF9E-FF9F"

/-- The characters beyond ASCII that are written by their code points. -/
def unshown : Unicode.CodeSet :=
  .unionOf [
    Unicode.Recent.hidden, Unicode.Property.defaultIgnorable,
    Unicode.Recent.graphemeExtend.difference halfWidthMarks]

/-- A character with a visible form of its own. ASCII is decided without the table. -/
def isShown (character : Char) : Bool :=
  let code := character.toNat
  if code < 0x7f then 0x20 ≤ code else !unshown.contains code

/-- The characters that stand for one character of a quoted text. A single quote
needs no escape. -/
def escape (character : Char) : List Char :=
  if character == '\x00' then ['\\', '0']
  else if character == '\t' then ['\\', 't']
  else if character == '\r' then ['\\', 'r']
  else if character == '\n' then ['\\', 'n']
  else if character == '\\' || character == '"' then ['\\', character]
  else if isShown character then [character]
  else ['\\', 'u', '\x7b'] ++ hexDigits character.toNat ++ ['\x7d']

def quote (text : String) : String :=
  String.ofList ('"' :: text.toList.flatMap escape ++ ['"'])

example : quote "a\"b\\\t" = "\"a\\\"b\\\\\\t\"" := by decide +kernel
example : quote "it's" = "\"it's\"" := by decide +kernel

end DocumentTypes.Text
