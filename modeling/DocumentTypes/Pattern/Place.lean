import DocumentTypes.Pattern.CharacterSet

/-! # Places

Conditions on the place between two characters of a text. Each is decided by the
character before the place and the one after it; there is none at the two ends of the
text. -/

namespace DocumentTypes.Pattern

inductive WordPlace
  | boundary
  | noBoundary
  | start
  | finish
  | startHalf
  | finishHalf
  deriving DecidableEq, Repr

/-- A condition with the flags resolved: whether lines also end at carriage returns,
and whether words hold characters beyond ASCII. -/
inductive Place
  | textStart
  | textEnd
  | lineStart (carriageReturn : Bool)
  | lineEnd (carriageReturn : Bool)
  | word (kind : WordPlace) (unicode : Bool)
  deriving DecidableEq, Repr

/-- Where lines are not told apart, the ends of a line are those of the text. -/
def Boundary.place (settings : Settings) : Boundary → Place
  | .lineStart => if settings.multiLine then .lineStart settings.carriageReturn else .textStart
  | .lineEnd => if settings.multiLine then .lineEnd settings.carriageReturn else .textEnd
  | .textStart => .textStart
  | .textEnd => .textEnd
  | .word => .word .boundary settings.unicode
  | .notWord => .word .noBoundary settings.unicode
  | .wordStart => .word .start settings.unicode
  | .wordEnd => .word .finish settings.unicode
  | .wordStartHalf => .word .startHalf settings.unicode
  | .wordEndHalf => .word .finishHalf settings.unicode

namespace WordPlace

def holds (kind : WordPlace) (wordBefore wordAfter : Bool) : Bool :=
  match kind with
  | boundary => wordBefore != wordAfter
  | noBoundary => wordBefore == wordAfter
  | start => !wordBefore && wordAfter
  | finish => wordBefore && !wordAfter
  | startHalf => !wordBefore
  | finishHalf => !wordAfter

end WordPlace

namespace Place

def isWordNeighbour (unicode : Bool) (neighbour : Option Char) : Bool :=
  let words := if unicode then Unicode.wordCharacters else AsciiClass.word.members
  neighbour.any fun character => words.contains character.toNat

/-- A carriage return and the line feed after it end one line together. -/
def holds (place : Place) (before after : Option Char) : Bool :=
  match place with
  | textStart => before.isNone
  | textEnd => after.isNone
  | lineStart false => before.isNone || before == some '\n'
  | lineStart true =>
    before.isNone || before == some '\n' || (before == some '\r' && after != some '\n')
  | lineEnd false => after.isNone || after == some '\n'
  | lineEnd true =>
    after.isNone || after == some '\r' || (after == some '\n' && before != some '\r')
  | word kind unicode =>
    kind.holds (isWordNeighbour unicode before) (isWordNeighbour unicode after)

end Place
end DocumentTypes.Pattern
