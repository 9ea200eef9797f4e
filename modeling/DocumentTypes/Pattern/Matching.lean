import DocumentTypes.Pattern.Parser
import DocumentTypes.Pattern.Size

/-! # Matching

A set of places in a text of `n` characters is a number below `2 ^ (n + 1)`, with
one bit for each place from before the first character to after the last. An
expression takes a set of places to the set of all places where a match that began
in the set can end. Nothing is tried twice, whatever the expression.

What an expression asks of single characters and places does not change on the way, so
it is asked once: an expression is first fitted to the text. -/

namespace DocumentTypes.Pattern

open Unicode (CodeSet)

/-! ## Characters and places of a text -/

/-- The characters of a text, each with the places that it follows. -/
abbrev Occurrences := List (Char × Nat)

namespace Occurrences

def note (character : Char) (place : Nat) : Occurrences → Occurrences
  | [] => [(character, 1 <<< place)]
  | (other, places) :: rest =>
    if other = character then (other, places ||| 1 <<< place) :: rest
    else (other, places) :: note character place rest

def ofText (text : List Char) : Occurrences :=
  text.zipIdx.foldl (fun table (character, place) => note character place table) []

def placesOf (table : Occurrences) (members : CodeSet) : Nat :=
  table.foldl (fun places (character, following) =>
    if members.contains character.toNat then places ||| following else places) 0

example : ofText ['a', 'b', 'a'] = [('a', 0b101), ('b', 0b010)] := by decide +kernel

end Occurrences

def neighbours (text : List Char) : List (Option Char × Option Char) :=
  (none :: text.map some).zip (text.map some ++ [none])

def placesWhere (holds : Option Char → Option Char → Bool) (text : List Char) : Nat :=
  (neighbours text).zipIdx.foldl (fun places ((before, after), place) =>
    if holds before after then places ||| 1 <<< place else places) 0

/-! ## Expressions fitted to a text -/

/-- An expression in which sets and conditions are replaced by the places where they
hold, and open repetitions by as many as there are places. -/
inductive Fitted
  | empty
  | step (places : Nat)
  | check (places : Nat)
  | sequence (first second : Fitted)
  | choice (first second : Fitted)
  | repeated (least extra : Nat) (body : Fitted)
  deriving DecidableEq, Repr

def Regular.fit (text : List Char) (table : Occurrences) : Regular → Fitted
  | .empty => .empty
  | .set members => .step (table.placesOf members)
  | .place kind => .check (placesWhere kind.holds text)
  | .sequence first second => .sequence (first.fit text table) (second.fit text table)
  | .choice first second => .choice (first.fit text table) (second.fit text table)
  | .repeated least most body =>
    .repeated least (most.elim (text.length + 1) (· - least)) (body.fit text table)
  | .group _ body => body.fit text table

/-- Apply a step a number of times, stopping early when nothing changes any more. -/
def times (step : Nat → Nat) : Nat → Nat → Nat
  | 0, places => places
  | count + 1, places =>
    let next := step places
    if next = places then places else times step count next

def within (step : Nat → Nat) : Nat → Nat → Nat
  | 0, places => places
  | count + 1, places =>
    let next := places ||| step places
    if next = places then places else within step count next

/-- The places where matches that begin in the given places end. Without an upper
bound, a repetition reaches nothing new after one step for every place. -/
def Fitted.ends : Fitted → Nat → Nat
  | empty, places => places
  | step following, places => 2 * (places &&& following)
  | check holding, places => places &&& holding
  | sequence first second, places => second.ends (first.ends places)
  | choice first second, places => first.ends places ||| second.ends places
  | repeated least extra body, places => within body.ends extra (times body.ends least places)

def Regular.occursIn (expression : Regular) (text : String) : Bool :=
  let text := text.toList
  (expression.fit text (.ofText text)).ends (Nat.pow 2 (text.length + 1) - 1) != 0

/-! ## Patterns -/

/-- The regular expression that a text denotes, if it denotes one that is not too
large. -/
def Regular.ofText? (text : String) : Option Regular := do
  let node ← Node.ofText? text
  let (meaning, _) ← node.meaning? Settings.initial
  if meaning.fits then some meaning else none

end DocumentTypes.Pattern
