import DocumentTypes.Pattern.Simplified
import DocumentTypes.Unicode.ByteForm

/-! # Sizes of automata

An expression is laid out as two automata over bytes, one that reads forwards and one
that reads backwards. A state takes a fixed room, and a state with several ways to go on
takes more for each. An expression whose automata are too large is refused. -/

namespace DocumentTypes.Pattern

open Unicode (ByteForm CodeSet bytesOf)

inductive Direction
  | forwards
  | backwards
  deriving DecidableEq, Repr

/-! ## Rooms -/

def stateSize : Nat := 32

def jumpSize : Nat := 4

/-- The room for one of several ranges of bytes that may come next. -/
def rangeSize : Nat := 8

def ruleSize (ranges : Nat) : Nat :=
  stateSize + if ranges = 1 then 0 else rangeSize * ranges

/-! ## Sets

Read forwards, forms that go on alike share states. Read backwards, forms that begin
alike do. -/

/-- What follows each of the different byte ranges with which forms begin. -/
def continuations (forms : List ByteForm) : List (List ByteForm) :=
  (forms.splitBy fun left right => left.head? == right.head?).map fun group =>
    group.map List.tail

/-- The lists of forms that have to be told apart on the way through some forms. -/
def situations : Nat → List ByteForm → List (List ByteForm)
  | 0, _ => []
  | depth + 1, forms =>
    if forms.all List.isEmpty then []
    else forms :: (continuations forms).flatMap (situations depth)

def forwardSetSize (forms : List ByteForm) : Nat :=
  (situations 4 forms).eraseDups.foldl (fun size forms =>
    size + stateSize + rangeSize * (continuations forms).length) stateSize

def sharedLength : ByteForm → ByteForm → Nat
  | left :: lefts, right :: rights => if left = right then sharedLength lefts rights + 1 else 0
  | _, _ => 0

/-- The number of different beginnings of forms in ascending order. -/
def beginnings (before : ByteForm) : List ByteForm → Nat
  | [] => 0
  | form :: rest => form.length - sharedLength before form + beginnings form rest

def backwardSetSize (forms : List ByteForm) : Nat :=
  2 * stateSize + jumpSize * forms.length + stateSize * beginnings [] forms

def setSize (direction : Direction) (members : CodeSet) : Nat :=
  if members.isAscii then 2 * stateSize + rangeSize * members.spans.length
  else
    match direction with
    | .forwards => forwardSetSize (ByteForm.ofSet members)
    | .backwards => backwardSetSize (ByteForm.ofSet members)

/-! ## Choices between literals

Branches that are all literals share the states of their common beginnings. Where a
literal ends and others go on, those listed before it and those listed after it are kept
apart. -/

/-- The words between those that have ended, in their order. Where several have ended
first of all, they count as one. -/
def betweenEnds (words : List (List UInt8)) : List (List (List UInt8)) :=
  let words := match words with
    | [] :: rest => [] :: rest.dropWhile List.isEmpty
    | words => words
  words.foldr (fun word chunks =>
    match word, chunks with
    | [], chunks => [] :: chunks
    | word, chunk :: chunks => (word :: chunk) :: chunks
    | word, [] => [[word]]) [[]]

def afterFirst (words : List (List UInt8)) : List (List (List UInt8)) :=
  (words.filterMap List.head?).eraseDups.map fun byte =>
    (words.filter fun word => word.head? == some byte).map List.tail

/-- The room for words that are not all empty, which are at most `depth` bytes long. -/
def treeSize : Nat → List (List UInt8) → Nat
  | 0, _ => 0
  | depth + 1, words =>
    if words.all List.isEmpty then 0
    else
      let chunks := betweenEnds words
      let rules := (chunks.filter fun chunk => !chunk.isEmpty).map afterFirst
      stateSize + jumpSize * (rules.length + (chunks.length - 1)) +
        (rules.map fun branches => ruleSize branches.length).sum +
        (rules.map fun branches => (branches.map (treeSize depth)).sum).sum

def literalsSize (direction : Direction) (literals : List (List Char)) : Nat :=
  let words := literals.map fun characters =>
    let bytes := characters.flatMap bytesOf
    if direction = .forwards then bytes else bytes.reverse
  stateSize + treeSize ((words.map List.length).foldl max 0 + 1) words

/-! ## Expressions -/

namespace Simplified

def literal? : Simplified → Option (List Char)
  | literal characters => some characters
  | _ => none

def isChoice : Simplified → Bool
  | choice .. => true
  | _ => false

/-- Repetitions beyond the least number may each be left out; one without an upper bound
goes back to its beginning. What can be repeated without reading anything needs more care
there. -/
def repeatedSize (least : Nat) (most : Option Nat) (readsSomething : Bool) (body : Nat) : Nat :=
  match least, most with
  | 0, some 1 => 2 * stateSize + 2 * jumpSize + body
  | 0, none =>
    if readsSomething then stateSize + 2 * jumpSize + body
    else 3 * stateSize + 4 * jumpSize + body
  | least, none => least * body + stateSize + 2 * jumpSize
  | least, some most =>
    if least = most then least * body
    else
      (if least = 0 then stateSize else least * body) + stateSize +
        (most - least) * (stateSize + 2 * jumpSize + body)

/-- The room for an expression. A branch that continues a choice does not begin one of
its own. -/
def size (direction : Direction) (continues : Bool) : Simplified → Nat
  | empty => stateSize
  | literal characters => stateSize * (characters.flatMap bytesOf).length
  | set members => setSize direction members
  | place _ => stateSize
  | sequence first second => first.size direction false + second.size direction false
  | choice first second =>
    match if continues then none else (choice first second).branches.mapM literal? with
    | some literals => literalsSize direction literals
    | none =>
      (if continues then 0 else 2 * stateSize) + jumpSize + first.size direction false +
        (if second.isChoice then 0 else jumpSize) + second.size direction second.isChoice
  | repeated least most body =>
    repeatedSize least most (body.lengths.least.any (0 < ·)) (body.size direction false)
  | captured body =>
    (if direction = .forwards then 2 * stateSize else 0) + body.size direction false

/-- Whether every match begins with a place that meets a condition. -/
def beginsAt (sought : Place) : Simplified → Bool
  | empty | literal _ | set _ => false
  | place kind => kind = sought
  | sequence first second =>
    first.beginsAt sought || (first.isPoint && second.beginsAt sought)
  | choice first second => first.beginsAt sought && second.beginsAt sought
  | repeated least _ body => 0 < least && body.beginsAt sought
  | captured body => body.beginsAt sought

def endsAt (sought : Place) : Simplified → Bool
  | empty | literal _ | set _ => false
  | place kind => kind = sought
  | sequence first second =>
    second.endsAt sought || (second.isPoint && first.endsAt sought)
  | choice first second => first.endsAt sought && second.endsAt sought
  | repeated least _ body => 0 < least && body.endsAt sought
  | captured body => body.endsAt sought

/-- What stands before the automaton: nothing, if it can only begin at one end of the
text, and else the loop that steps over what comes before a match. -/
def searchSize (direction : Direction) (expression : Simplified) : Nat :=
  let fixed := match direction with
    | .forwards => expression.beginsAt .textStart
    | .backwards => expression.endsAt .textEnd
  if fixed then stateSize
  else repeatedSize 0 none true (2 * stateSize + rangeSize)

/-- The whole automaton with its final state. Only the one that reads forwards notes
where the match begins and ends. -/
def automatonSize (direction : Direction) (expression : Simplified) : Nat :=
  searchSize direction expression + (captured expression).size direction false + stateSize

end Simplified

def sizeLimit : Nat := 10 * Nat.pow 2 20

def Regular.fits (expression : Regular) : Bool :=
  let simplified := expression.simplified
  simplified.automatonSize .forwards ≤ sizeLimit &&
    simplified.automatonSize .backwards ≤ sizeLimit

end DocumentTypes.Pattern
