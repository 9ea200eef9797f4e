import DocumentTypes.Calendar.Instant
import DocumentTypes.Table

/-! # Document values

A document is a tree of values. Repeated properties have two shapes: a list, which
editing and instantiation produce, and an array, which reading a textual default
produces. -/

namespace DocumentTypes

open Calendar (Instant)

inductive Value
  | null
  | boolean (value : Bool)
  | long (value : Int64)
  | double (value : Binary64)
  | string (value : String)
  | date (value : Instant)
  | binary (value : List UInt8)
  | map (entries : List (String × Value))
  | list (items : List Value)
  | array (items : List Value)
  deriving Inhabited

/-- The shape of a value, as messages name it. -/
inductive Shape
  | null | boolean | long | double | string | date | binary | map | list | array
  deriving DecidableEq, Repr

def Shape.name : Shape → String
  | .null => "null"
  | .boolean => "boolean"
  | .long => "long"
  | .double => "double"
  | .string => "string"
  | .date => "date"
  | .binary => "binary"
  | .map => "map"
  | .list => "list"
  | .array => "array"

namespace Value

def shape : Value → Shape
  | null => .null
  | boolean _ => .boolean
  | long _ => .long
  | double _ => .double
  | string _ => .string
  | date _ => .date
  | binary _ => .binary
  | map _ => .map
  | list _ => .list
  | array _ => .array

/-! ## Views -/

def isNull : Value → Bool
  | null => true
  | _ => false

def asBoolean? : Value → Option Bool
  | boolean value => some value
  | _ => none

def asLong? : Value → Option Int64
  | long value => some value
  | _ => none

def asDouble? : Value → Option Binary64
  | double value => some value
  | _ => none

def asString? : Value → Option String
  | string value => some value
  | _ => none

def asDate? : Value → Option Instant
  | date value => some value
  | _ => none

def asBinary? : Value → Option (List UInt8)
  | binary value => some value
  | _ => none

def asMap? : Value → Option (List (String × Value))
  | map entries => some entries
  | _ => none

def asSequence? : Value → Option (List Value)
  | list items => some items
  | array items => some items
  | _ => none

def isSequence (value : Value) : Bool := value.asSequence?.isSome

/-! ## Map entries -/

def get? (value : Value) (key : String) : Option Value :=
  value.asMap?.bind fun entries => Entries.get? entries key

def put? (value : Value) (key : String) (entry : Value) : Option Value :=
  value.asMap?.map fun entries => map (Entries.put entries key entry)

/-! ## Equality

Maps are equal when they have equal entries, in whatever order. Doubles compare
as numbers, so that a NaN makes a value differ from itself. -/

mutual

def equal : Value → Value → Bool
  | null, null => true
  | boolean left, boolean right => left == right
  | long left, long right => left == right
  | double left, double right => left.equal right
  | string left, string right => left == right
  | date left, date right => left == right
  | binary left, binary right => left == right
  | map left, map right => left.length == right.length && entriesWithin left right
  | list left, list right => itemsEqual left right
  | array left, array right => itemsEqual left right
  | _, _ => false

def itemsEqual : List Value → List Value → Bool
  | [], [] => true
  | left :: leftRest, right :: rightRest => equal left right && itemsEqual leftRest rightRest
  | _, _ => false

def entriesWithin : List (String × Value) → List (String × Value) → Bool
  | [], _ => true
  | (key, left) :: rest, entries =>
    (match Entries.get? entries key with
      | some right => equal left right
      | none => false) && entriesWithin rest entries

end

instance : BEq Value := ⟨equal⟩

example : (map [("a", null), ("b", long 1)] == map [("b", long 1), ("a", null)]) = true := by
  decide +kernel
example : (double Binary64.nan == double Binary64.nan) = false := by decide +kernel
example : (list [] == array []) = false := by decide +kernel

/-! ## Values of plain data -/

def ofOption (present : α → Value) : Option α → Value
  | some value => present value
  | none => null

def ofList (element : α → Value) (items : List α) : Value := list (items.map element)

end Value
end DocumentTypes
