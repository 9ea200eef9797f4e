import DocumentTypes.Pattern.Place
import DocumentTypes.Pattern.Syntax

/-! # Regular expressions

The meaning of a pattern: characters from sets, conditions on places, and the regular
operations. Flags have been resolved into the sets and conditions. Groups match what
their bodies match; they are kept because they keep the branches of their body apart
from those around it, and because a group that captures takes room. -/

namespace DocumentTypes.Pattern

open Unicode (CodeSet)

inductive Regular
  | empty
  | set (members : CodeSet)
  | place (kind : Place)
  | sequence (first second : Regular)
  | choice (first second : Regular)
  | repeated (least : Nat) (most : Option Nat) (body : Regular)
  | group (captures : Bool) (body : Regular)
  deriving DecidableEq, Repr

/-! ## Characters -/

/-- A literal character. A byte above ASCII is not a character by itself. -/
def Literal.meaning? (settings : Settings) (literal : Literal) : Option Regular :=
  let code := literal.character.toNat
  if !settings.unicode && literal.isByte && 0x80 ≤ code then none
  else some (.set (fold settings (.ofCodes [code])))

/-- Any character, or any but the end of a line. A lone byte is never a character,
so a dot needs the Unicode flag. -/
def dotMeaning? (settings : Settings) : Option Regular :=
  if !settings.unicode then none
  else if settings.dotMatchesNewline then some (.set .all)
  else if settings.carriageReturn then some (.set (CodeSet.ofCodes [0x0a, 0x0d]).complement)
  else some (.set (CodeSet.ofCodes [0x0a]).complement)

/-! ## Nodes

Switches hold from their place to the end of the group that contains them, across
its branches, so the settings are handed on from node to node. -/

mutual

def Node.meaning? (settings : Settings) : Node → Option (Regular × Settings)
  | .empty => some (.empty, settings)
  | .flags changes => some (.empty, settings.change changes)
  | .literal written => (written.meaning? settings).map (·, settings)
  | .dot => (dotMeaning? settings).map (·, settings)
  | .boundary kind => some (.place (kind.place settings), settings)
  | .shorthand name negated => (name.codes? settings negated).map fun set => (.set set, settings)
  | .property query negated =>
    (query.codes? settings negated).map fun set => (.set set, settings)
  | .bracketed negated content => do
    let set ← content.codes? settings
    let set ← foldAndNegate? settings negated set
    some (.set set, settings)
  | .repeated least most node => do
    let (body, after) ← node.meaning? settings
    some (.repeated least most body, after)
  | .group captures changes node => do
    let (body, _) ← node.meaning? (settings.change changes)
    some (.group captures body, settings)
  | .concatenation nodes => Node.sequenceMeaning? settings nodes
  | .alternation branches => Node.choiceMeaning? settings branches

def Node.sequenceMeaning? (settings : Settings) : List Node → Option (Regular × Settings)
  | [] => some (.empty, settings)
  | node :: rest => do
    let (first, settings) ← node.meaning? settings
    let (second, settings) ← Node.sequenceMeaning? settings rest
    some (.sequence first second, settings)

def Node.choiceMeaning? (settings : Settings) : List Node → Option (Regular × Settings)
  | [] => some (.empty, settings)
  | [node] => node.meaning? settings
  | node :: rest => do
    let (first, settings) ← node.meaning? settings
    let (second, settings) ← Node.choiceMeaning? settings rest
    some (.choice first second, settings)

end

end DocumentTypes.Pattern
