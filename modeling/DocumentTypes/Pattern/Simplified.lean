import DocumentTypes.Pattern.Regular

/-! # Simplified expressions

The form in which an expression is laid out as an automaton. Neighbouring characters
are one literal, nothing is left of empty parts, branches that are all single characters
or all sets are one set, and what all branches begin with stands in front of them.
Sequences and choices lean to the right. -/

namespace DocumentTypes.Pattern

open Unicode (CodeSet)

inductive Simplified
  | empty
  | literal (characters : List Char)
  | set (members : CodeSet)
  | place (kind : Place)
  | sequence (first second : Simplified)
  | choice (first second : Simplified)
  | repeated (least : Nat) (most : Option Nat) (body : Simplified)
  | captured (body : Simplified)
  deriving DecidableEq, Repr

/-! ## Lengths -/

/-- The least and the greatest number of characters in a match. There is no least where
nothing matches, and no greatest where there is no bound. -/
structure Lengths where
  least : Option Nat
  greatest : Option Nat
  deriving DecidableEq, Repr

namespace Lengths

def exactly (count : Nat) : Lengths := ⟨some count, some count⟩

def both (operation : Nat → Nat → Nat) : Option Nat → Option Nat → Option Nat
  | some left, some right => some (operation left right)
  | _, _ => none

def sequence (first second : Lengths) : Lengths :=
  ⟨both Nat.add first.least second.least, both Nat.add first.greatest second.greatest⟩

def choice (first second : Lengths) : Lengths :=
  ⟨both min first.least second.least, both max first.greatest second.greatest⟩

def repeated (least : Nat) (most : Option Nat) (body : Lengths) : Lengths :=
  ⟨body.least.map (least * ·), both Nat.mul most body.greatest⟩

end Lengths

namespace Simplified

def lengths : Simplified → Lengths
  | empty => .exactly 0
  | literal characters => .exactly characters.length
  | set members => if members.spans.isEmpty then ⟨none, none⟩ else .exactly 1
  | place _ => .exactly 0
  | sequence first second => first.lengths.sequence second.lengths
  | choice first second => first.lengths.choice second.lengths
  | repeated least most body => body.lengths.repeated least most
  | captured body => body.lengths

def isPoint (part : Simplified) : Bool := part.lengths.greatest == some 0

/-! ## Building simplified expressions -/

def ofSet (members : CodeSet) : Simplified :=
  match members.single? with
  | some code => literal [Char.ofNat code]
  | none => set members

def prepend (part rest : Simplified) : Simplified :=
  match part, rest with
  | empty, rest => rest
  | part, empty => part
  | literal first, literal second => literal (first ++ second)
  | literal first, sequence (literal second) others =>
    sequence (literal (first ++ second)) others
  | part, rest => sequence part rest

def followedBy : Simplified → Simplified → Simplified
  | sequence first second, rest => first.prepend (second.followedBy rest)
  | part, rest => part.prepend rest

def ofParts (parts : List Simplified) : Simplified := parts.foldr followedBy empty

/-- The parts of a sequence; any other expression is its own only part. -/
def parts : Simplified → List Simplified
  | sequence first second => first :: second.parts
  | part => [part]

/-- The branches of a choice; any other expression is its own only branch. -/
def branches : Simplified → List Simplified
  | choice first second => first :: second.branches
  | branch => [branch]

def repeatedBy (least : Nat) (most : Option Nat) (body : Simplified) : Simplified :=
  let (least, most) :=
    if body.isPoint then (min least 1, some (min (most.getD 1) 1)) else (least, most)
  if least = 0 && most == some 0 then empty
  else if least = 1 && most == some 1 then body
  else repeated least most body

def singleCode? : Simplified → Option Nat
  | literal [character] => some character.toNat
  | _ => none

def set? : Simplified → Option CodeSet
  | set members => some members
  | _ => none

def choiceOf : List Simplified → Simplified
  | [] => set .empty
  | [branch] => branch
  | branch :: rest => choice branch (choiceOf rest)

/-- Branches as one set, where they are all single characters or all sets. -/
def mergedSet? (branches : List Simplified) : Option CodeSet :=
  (branches.mapM singleCode?).map CodeSet.ofCodes <|>
    (branches.mapM set?).map CodeSet.unionOf

/-- The choice between branches, some of which may be choices themselves. -/
def flatChoice (branches : List Simplified) : Simplified :=
  match branches.flatMap Simplified.branches with
  | [branch] => branch
  | branches => (mergedSet? branches).elim (choiceOf branches) ofSet

def holdsCapture : Simplified → Bool
  | empty | literal _ | set _ | place _ => false
  | sequence first second | choice first second => first.holdsCapture || second.holdsCapture
  | repeated _ _ body => body.holdsCapture
  | captured _ => true

def commonParts : List Simplified → List Simplified → List Simplified
  | left :: lefts, right :: rights =>
    if left = right && !left.holdsCapture then left :: commonParts lefts rights else []
  | _, _ => []

/-- The parts with which all branches begin, if they are all sequences. -/
def sharedParts (branches : List Simplified) : List Simplified :=
  let all := branches.map parts
  match all with
  | [] => []
  | first :: others =>
    if all.all fun parts => 1 < parts.length then others.foldl commonParts first else []

/-- The choice between branches, with what they share in front. -/
def anyOf (branches : List Simplified) : Simplified :=
  match flatChoice branches with
  | choice first second =>
    let branches := (choice first second).branches
    let shared := sharedParts branches
    if shared.isEmpty then choice first second
    else
      let rest := flatChoice (branches.map fun branch =>
        ofParts (branch.parts.drop shared.length))
      ofParts (shared ++ [rest])
  | other => other

end Simplified

/-! ## Simplifying -/

def Regular.simplifiedBranches : Regular → List Simplified
  | .empty => [.empty]
  | .set members => [.ofSet members]
  | .place kind => [.place kind]
  | .sequence first second =>
    [(Simplified.anyOf first.simplifiedBranches).followedBy
      (Simplified.anyOf second.simplifiedBranches)]
  | .choice first second => .anyOf first.simplifiedBranches :: second.simplifiedBranches
  | .repeated least most body => [.repeatedBy least most (.anyOf body.simplifiedBranches)]
  | .group captures body =>
    let body := Simplified.anyOf body.simplifiedBranches
    [if captures then .captured body else body]

def Regular.simplified (expression : Regular) : Simplified := .anyOf expression.simplifiedBranches

end DocumentTypes.Pattern
