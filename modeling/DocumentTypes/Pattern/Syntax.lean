/-! # Written patterns

The tree of a pattern as it is written, before flags and classes are given their
meaning. -/

namespace DocumentTypes.Pattern

/-- A switch that a pattern can set for the rest of its group. -/
inductive Flag
  | caseInsensitive
  | multiLine
  | dotMatchesNewline
  | swapGreed
  | unicode
  | carriageReturn
  | ignoreBlanks
  deriving DecidableEq, Repr

abbrev FlagChanges := List (Flag × Bool)

/-- A character as written. The byte form `\xNN` names a byte where patterns are
not read as characters. -/
structure Literal where
  character : Char
  isByte : Bool
  deriving DecidableEq, Repr

/-- A class written as one letter after a backslash, small or, negated, capital. -/
inductive Shorthand
  | digit
  | space
  | word
  deriving DecidableEq, Repr

inductive AsciiClass
  | alnum | alpha | ascii | blank | cntrl | digit | graph | lower | print | punct
  | space | upper | word | xdigit
  deriving DecidableEq, Repr

/-- A property of characters: a bare name, or a property with a value. -/
inductive PropertyQuery
  | named (name : String)
  | valued (property value : String)
  deriving DecidableEq, Repr

inductive Boundary
  | lineStart
  | lineEnd
  | textStart
  | textEnd
  | word
  | notWord
  | wordStart
  | wordEnd
  | wordStartHalf
  | wordEndHalf
  deriving DecidableEq, Repr

inductive SetOperation
  | intersection
  | difference
  | symmetricDifference
  deriving DecidableEq, Repr

/-- What stands inside the brackets of a class. -/
inductive ClassSet
  | range (first last : Literal)
  | ascii (name : AsciiClass) (negated : Bool)
  | shorthand (name : Shorthand) (negated : Bool)
  | property (query : PropertyQuery) (negated : Bool)
  | bracketed (negated : Bool) (content : ClassSet)
  | union (items : List ClassSet)
  | operation (operation : SetOperation) (left right : ClassSet)

inductive Node
  | empty
  | flags (changes : FlagChanges)
  | literal (literal : Literal)
  | dot
  | boundary (boundary : Boundary)
  | shorthand (name : Shorthand) (negated : Bool)
  | property (query : PropertyQuery) (negated : Bool)
  | bracketed (negated : Bool) (content : ClassSet)
  | repeated (least : Nat) (most : Option Nat) (node : Node)
  /-- A group whose text is remembered is one that captures. -/
  | group (captures : Bool) (changes : FlagChanges) (node : Node)
  | alternation (branches : List Node)
  | concatenation (nodes : List Node)

/-! ## Nesting

Patterns nested too deeply are refused. Sequences and alternations count as levels
only when they have more than one part, and a part of a class that was left out, as
after the operator of `[a&&]`, is no level at all. -/

mutual

def ClassSet.depth : ClassSet → Nat
  | .range .. | .ascii .. | .shorthand .. | .property .. => 0
  | .bracketed _ content => content.depth + 1
  | .union [] => 0
  | .union (item :: rest) => max item.depth (ClassSet.depths rest) + 1
  | .operation _ left right => max left.depth right.depth + 1

def ClassSet.depths : List ClassSet → Nat
  | [] => 0
  | item :: rest => max item.depth (ClassSet.depths rest)

end

mutual

def Node.depth : Node → Nat
  | .empty | .flags _ | .literal _ | .dot | .boundary _ | .shorthand .. | .property .. => 0
  | .bracketed _ content => content.depth + 1
  | .repeated _ _ node => node.depth + 1
  | .group _ _ node => node.depth + 1
  | .alternation branches => Node.depths branches + 1
  | .concatenation nodes => Node.depths nodes + 1

def Node.depths : List Node → Nat
  | [] => 0
  | node :: rest => max node.depth (Node.depths rest)

end

end DocumentTypes.Pattern
