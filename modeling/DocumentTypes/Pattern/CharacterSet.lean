import DocumentTypes.Pattern.Syntax
import DocumentTypes.Unicode.Folding
import DocumentTypes.Unicode.PropertyName

/-! # Character sets

The meaning of classes under the flags in force. Classes speak about characters,
or, where the Unicode flag is off, about bytes; a class of bytes is admitted only
when it holds nothing beyond ASCII, because a byte above that is only a part of a
character. Case folding is applied before negation, and to both operands of an
operator before it. -/

namespace DocumentTypes.Pattern

open Unicode (CodeSet)

/-- The flags that are in force at a place of a pattern. -/
structure Settings where
  caseInsensitive : Bool
  multiLine : Bool
  dotMatchesNewline : Bool
  unicode : Bool
  carriageReturn : Bool
  deriving DecidableEq, Repr

namespace Settings

def initial : Settings := ⟨false, false, false, true, false⟩

def set (settings : Settings) : Flag × Bool → Settings
  | (.caseInsensitive, value) => { settings with caseInsensitive := value }
  | (.multiLine, value) => { settings with multiLine := value }
  | (.dotMatchesNewline, value) => { settings with dotMatchesNewline := value }
  | (.unicode, value) => { settings with unicode := value }
  | (.carriageReturn, value) => { settings with carriageReturn := value }
  | (.swapGreed, _) => settings
  | (.ignoreBlanks, _) => settings

def change (settings : Settings) (changes : FlagChanges) : Settings :=
  changes.foldl set settings

end Settings

/-! ## Operations on sets -/

def SetOperation.apply : SetOperation → CodeSet → CodeSet → CodeSet
  | .intersection => CodeSet.intersection
  | .difference => CodeSet.difference
  | .symmetricDifference => CodeSet.symmetricDifference

def asciiPairs : List (List Nat) := (List.range 26).map fun place => [0x41 + place, 0x61 + place]

/-- The members of a set together with the ASCII letters that differ from a member only
in case. -/
def foldAscii (set : CodeSet) : CodeSet :=
  set ∪ .ofCodes (asciiPairs.filter fun pair => pair.any set.contains).flatten

def fold (settings : Settings) (set : CodeSet) : CodeSet :=
  if !settings.caseInsensitive then set
  else if settings.unicode then set.foldCase
  else foldAscii set

def negate? (settings : Settings) (negated : Bool) (set : CodeSet) : Option CodeSet :=
  if !negated then some set
  else if settings.unicode then some set.complement
  else none

def foldAndNegate? (settings : Settings) (negated : Bool) (set : CodeSet) : Option CodeSet :=
  negate? settings negated (fold settings set)

/-! ## Named classes -/

def AsciiClass.members : AsciiClass → CodeSet
  | .alnum => .read "30-39 41-5A 61-7A"
  | .alpha => .read "41-5A 61-7A"
  | .ascii => .read "0-7F"
  | .blank => .read "9 20"
  | .cntrl => .read "0-1F 7F"
  | .digit => .read "30-39"
  | .graph => .read "21-7E"
  | .lower => .read "61-7A"
  | .print => .read "20-7E"
  | .punct => .read "21-2F 3A-40 5B-60 7B-7E"
  | .space => .read "9-D 20"
  | .upper => .read "41-5A"
  | .word => .read "30-39 41-5A 5F 61-7A"
  | .xdigit => .read "30-39 41-46 61-66"

/-- The classes of digits, blanks and word characters are closed under case
folding. -/
def Shorthand.members (settings : Settings) : Shorthand → CodeSet
  | .digit => if settings.unicode then Unicode.decimalDigits else AsciiClass.digit.members
  | .space => if settings.unicode then Unicode.Property.whiteSpace else AsciiClass.space.members
  | .word => if settings.unicode then Unicode.wordCharacters else AsciiClass.word.members

def Shorthand.codes? (settings : Settings) (name : Shorthand) (negated : Bool) :
    Option CodeSet :=
  negate? settings negated (name.members settings)

/-- Properties belong to characters, so they need the Unicode flag. -/
def PropertyQuery.codes? (settings : Settings) (query : PropertyQuery) (negated : Bool) :
    Option CodeSet := do
  let set ← match query with
    | .named name => Unicode.propertyNamed? name
    | .valued property value => Unicode.propertyValue? property value
  if settings.unicode then foldAndNegate? settings negated set else none

/-! ## Classes -/

/-- The code point or byte that a literal in a class stands for. -/
def Literal.code? (settings : Settings) (literal : Literal) : Option Nat :=
  let code := literal.character.toNat
  if settings.unicode || code < 0x80 then some code else none

mutual

def ClassSet.codes? (settings : Settings) : ClassSet → Option CodeSet
  | .range first last => do
    some (.between (← first.code? settings) (← last.code? settings))
  | .ascii name negated => foldAndNegate? settings negated name.members
  | .shorthand name negated => name.codes? settings negated
  | .property query negated => query.codes? settings negated
  | .bracketed negated content => do
    foldAndNegate? settings negated (← content.codes? settings)
  | .union items => ClassSet.unionCodes? settings items
  | .operation operator left right => do
    let left ← left.codes? settings
    let right ← right.codes? settings
    some (operator.apply (fold settings left) (fold settings right))

def ClassSet.unionCodes? (settings : Settings) : List ClassSet → Option CodeSet
  | [] => some .empty
  | item :: rest => do
    let first ← item.codes? settings
    let others ← ClassSet.unionCodes? settings rest
    some (first ∪ others)

end

end DocumentTypes.Pattern
