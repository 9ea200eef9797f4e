import DocumentTypes.Failure
import DocumentTypes.Number.Shortest
import DocumentTypes.Pattern.Matching
import DocumentTypes.Primitive.Codec

/-! # Constraints

Predicates on non-null values that a simple type lays over the type it derives
from. Every constraint also describes itself for reports. -/

namespace DocumentTypes

/-- Bounds on a number, each of them optional and inclusive unless it is said to be
strict. -/
structure NumericInterval where
  least : Option Binary64
  aboveLeast : Bool
  greatest : Option Binary64
  belowGreatest : Bool
  deriving DecidableEq, Repr

structure LengthBounds where
  least : Option Nat
  greatest : Option Nat
  deriving DecidableEq, Repr

/-- A pattern with the expression that decides it. -/
structure FullPattern where
  source : String
  expression : Pattern.Regular

/-! ## Patterns

A pattern is held against a whole text by reading it between anchors, inside a
group of its own. -/

def anchored (pattern : String) : String := "^(?:" ++ pattern ++ ")$"

def FullPattern.ofText? (pattern : String) : Except Failure FullPattern :=
  match Pattern.Regular.ofText? (anchored pattern) with
  | some expression => .ok ⟨pattern, expression⟩
  | none => .error (.invalidPattern pattern)

inductive Constraint
  | oneOf (allowed : List String)
  | length (bounds : LengthBounds)
  | interval (bounds : NumericInterval)
  | pattern (pattern : FullPattern)

namespace LengthBounds

def contains (bounds : LengthBounds) (count : Nat) : Bool :=
  bounds.least.all (· ≤ count) && bounds.greatest.all (count ≤ ·)

def description (bounds : LengthBounds) : String :=
  match bounds.least, bounds.greatest with
  | some least, some greatest =>
    "length in [" ++ Decimal.writeNat least ++ ", " ++ Decimal.writeNat greatest ++ "]"
  | some least, none => "length >= " ++ Decimal.writeNat least
  | none, some greatest => "length <= " ++ Decimal.writeNat greatest
  | none, none => "any length"

end LengthBounds

namespace NumericInterval

def inclusive (least greatest : Option Binary64) : NumericInterval :=
  ⟨least, false, greatest, false⟩

def contains (bounds : NumericInterval) (number : Binary64) : Bool :=
  (bounds.least.all fun least =>
    if bounds.aboveLeast then least.lessThan number else least.atMost number) &&
  bounds.greatest.all fun greatest =>
    if bounds.belowGreatest then number.lessThan greatest else number.atMost greatest

def description (bounds : NumericInterval) : String :=
  let lower := match bounds.least with
    | some least => (if bounds.aboveLeast then "(" else "[") ++ Shortest.write least
    | none => "(-inf"
  let upper := match bounds.greatest with
    | some greatest => Shortest.write greatest ++ (if bounds.belowGreatest then ")" else "]")
    | none => "+inf)"
  "value in " ++ lower ++ ", " ++ upper

end NumericInterval

namespace Constraint

/-- The literal that an enumeration compares: the text of a string, a number or a
boolean. Other values have none. -/
def literal? : Value → Option String
  | .string text => some text
  | .long number => some (Decimal.writeInt number.toInt)
  | .double number => some (Shortest.write number)
  | .boolean value => some (PrimitiveKind.writeBoolean value)
  | _ => none

/-- Whether a value satisfies a constraint. A value of a shape that the constraint
does not speak about does not. -/
def accepts (constraint : Constraint) (value : Value) : Bool :=
  match constraint with
  | oneOf allowed => (literal? value).any allowed.contains
  | length bounds =>
    match value with
    | .string text => bounds.contains text.length
    | _ => false
  | interval bounds =>
    match value with
    | .long number => bounds.contains (Binary64.ofInt number.toInt)
    | .double number => bounds.contains number
    | _ => false
  | pattern full =>
    match value with
    | .string text => full.expression.occursIn text
    | _ => false

def description : Constraint → String
  | oneOf allowed => "one of [" ++ ", ".intercalate allowed ++ "]"
  | length bounds => bounds.description
  | interval bounds => bounds.description
  | pattern full => "matches /" ++ full.source ++ "/"

end Constraint
end DocumentTypes
