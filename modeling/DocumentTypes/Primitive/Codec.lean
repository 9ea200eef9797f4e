import DocumentTypes.Failure
import DocumentTypes.Number.Shortest

/-! # Primitive values

What each primitive accepts, how it reads and writes text, and how a value of
another shape becomes one of its own. -/

namespace DocumentTypes.PrimitiveKind

/-! ## Ranges -/

def leastInteger : Int := -Int.pow 2 31
def greatestInteger : Int := Int.pow 2 31 - 1
def leastLong : Int := -Int.pow 2 63
def greatestLong : Int := Int.pow 2 63 - 1

def isInteger (value : Int64) : Bool :=
  leastInteger ≤ value.toInt && value.toInt ≤ greatestInteger

/-! ## Validation -/

/-- Whether a primitive accepts a value. Null is accepted by all, and a double slot
also takes whole numbers. -/
def validate (kind : PrimitiveKind) (value : Value) : Bool :=
  match kind, value with
  | _, .null => true
  | .any, _ => true
  | .string, .string _ => true
  | .boolean, .boolean _ => true
  | .integer, .long number => isInteger number
  | .long, .long _ => true
  | .double, .double _ => true
  | .double, .long _ => true
  | .date, .date _ => true
  | .binary, .binary _ => true
  | _, _ => false

/-! ## Text -/

def readBoolean? (text : String) : Option Bool :=
  match String.ofList (text.toList.map Char.toLower) with
  | "true" | "1" => some true
  | "false" | "0" => some false
  | _ => none

/-- The value that a text stands for. Blanks around it are ignored except where
the text itself is the value. -/
def read? (kind : PrimitiveKind) (text : String) : Option Value :=
  match kind with
  | .string | .any => some (.string text)
  | .boolean => (readBoolean? (Text.trim text)).map Value.boolean
  | .integer => (Decimal.readIntWithin? leastInteger greatestInteger (Text.trim text)).map
      fun number => .long (Int64.ofInt number)
  | .long => (Decimal.readIntWithin? leastLong greatestLong (Text.trim text)).map
      fun number => .long (Int64.ofInt number)
  | .double => (Decimal.readReal? (Text.trim text)).map Value.double
  | .date => (Calendar.Instant.read? (Text.trim text)).map Value.date
  | .binary => some (.binary text.toUTF8.toList)

def decode (kind : PrimitiveKind) : Option String → Except Failure Value
  | none => .ok .null
  | some text =>
    match kind.read? text with
    | some value => .ok value
    | none => .error (.undecodable text kind)

def writeBoolean (value : Bool) : String := if value then "true" else "false"

/-- The text of a scalar. Bytes have one only when they are UTF-8; null and the
containers have none. -/
def encode? : Value → Option String
  | .boolean value => some (writeBoolean value)
  | .long value => some (Decimal.writeInt value.toInt)
  | .double value => some (Shortest.write value)
  | .string value => some value
  | .date value => some value.write
  | .binary bytes => String.fromUTF8? bytes.toByteArray
  | .null | .map _ | .list _ | .array _ => none

/-! ## Conversion -/

/-- The nearest 64-bit number to a whole double: those beyond the range become its
ends. -/
def clampToLong (value : Int) : Int64 := Int64.ofInt (max leastLong (min greatestLong value))

/-- A value of the primitive's own shape that stands for the given non-null one. -/
def convert? (kind : PrimitiveKind) (value : Value) : Option Value :=
  match kind, value with
  | .any, value => some value
  | .string, .string text => some (.string text)
  | .string, .boolean value => some (.string (writeBoolean value))
  | .string, .long value => some (.string (Decimal.writeInt value.toInt))
  | .string, .double value => some (.string (Shortest.write value))
  | .string, .date value => some (.string value.write)
  | .boolean, .boolean value => some (.boolean value)
  | .integer, .long value => if isInteger value then some (.long value) else none
  | .integer, .double value => do
    let whole := clampToLong (← value.toInt?)
    if isInteger whole then some (.long whole) else none
  | .long, .long value => some (.long value)
  | .long, .double value => value.toInt?.map fun whole => .long (clampToLong whole)
  | .double, .double value => some (.double value)
  | .double, .long value => some (.double (Binary64.ofInt value.toInt))
  | .date, .date value => some (.date value)
  | .date, .long millis => (Calendar.Instant.ofMillis? millis.toInt).map Value.date
  | .binary, .binary bytes => some (.binary bytes)
  | kind, .string text => kind.read? text
  | _, _ => none

def convert (kind : PrimitiveKind) (value : Value) : Except Failure Value :=
  match value with
  | .null => .ok .null
  | value =>
    match kind.convert? value with
    | some converted => .ok converted
    | none => .error (.cannotConvert value.shape kind)

def newInstance : PrimitiveKind → Value
  | .string => .string ""
  | .boolean => .boolean false
  | .integer | .long => .long 0
  | .double => .double Binary64.zero
  | .date | .binary | .any => .null

end DocumentTypes.PrimitiveKind
