import DocumentTypes.Number.Shortest
import DocumentTypes.Yaml.Node
import DocumentTypes.Yaml.Resolution

/-! # Data

What a node holds when nothing is known about its type: a tag says what it is, or
else its style and its text do. -/

namespace DocumentTypes.Yaml

inductive Data
  | null
  | boolean (value : Bool)
  | integer (value : Int)
  | real (value : Binary64)
  | string (text : String)
  | sequence (items : List Data)
  | mapping (entries : List (Data × Data))
  /-- Data with a tag of the document's own, whose leading mark is left out. -/
  | tagged (tag : String) (content : Data)
  deriving Inhabited

namespace Data

/-! ## Equality

Mappings are equal when they have equal entries, in whatever order. A NaN equals
every NaN, and zeros of either sign are equal. -/

mutual

def equal : Data → Data → Bool
  | null, null => true
  | boolean left, boolean right => left == right
  | integer left, integer right => left == right
  | real left, real right => left.equal right || (left.isNaN && right.isNaN)
  | string left, string right => left == right
  | sequence left, sequence right => itemsEqual left right
  | mapping left, mapping right => left.length == right.length && entriesWithin left right
  | tagged leftTag left, tagged rightTag right => leftTag == rightTag && equal left right
  | _, _ => false

def itemsEqual : List Data → List Data → Bool
  | [], [] => true
  | left :: leftRest, right :: rightRest => equal left right && itemsEqual leftRest rightRest
  | _, _ => false

def entriesWithin : List (Data × Data) → List (Data × Data) → Bool
  | [], _ => true
  | (key, value) :: rest, entries =>
    (entries.any fun other => equal key other.1 && equal value other.2) &&
      entriesWithin rest entries

end

instance : BEq Data := ⟨equal⟩

/-! ## Scalars -/

def leastWord : Int := -Int.pow 2 63
def greatestWord : Int := Int.pow 2 64 - 1

/-- A whole number of 64 bits. One that needs more bits is refused, up to 128 bits;
beyond these a text is no whole number any more. -/
def ofInteger (value : Int) : Option (Option Data) :=
  if leastWord ≤ value && value ≤ greatestWord then some (some (integer value))
  else if -Int.pow 2 127 ≤ value && value < Int.pow 2 128 then some none
  else none

def ofPlain? (text : String) : Option Data :=
  if text = "" || isNullWord text then some null
  else match booleanWord? text, (integer? text).bind ofInteger with
    | some value, _ => some (boolean value)
    | none, some found => found
    | none, none =>
      match if isZeroPadded text then none else real? text with
      | some value => some (real value)
      | none => some (string text)

/-- A name without the mark before it. A lone mark is a name itself. -/
def tagName (name : String) : String :=
  match name.toList with
  | '!' :: character :: rest => String.ofList (character :: rest)
  | _ => name

def isOwnTag (tag : TagBytes) : Bool := tag.head? == some '!'.toUInt8

/-- The name of a tag of the document's own, which begins with a mark. Bytes that are
no text name nothing. A name is kept without a second mark. -/
def ownTag? (tag : TagBytes) : Option String :=
  if isOwnTag tag then
    (String.fromUTF8? tag.toByteArray).map fun name => tagName (tagName name)
  else none

def ofUntagged? (style : ScalarStyle) (text : String) : Option Data :=
  if style = .plain then ofPlain? text else some (string text)

/-- A scalar with a tag that names nothing of the document's own. The standard tags of
scalars demand a text of their type. A nameless tag of the document's own is passed
over, and any other tag makes the scalar a string. -/
def ofTagged? (tag : TagBytes) (style : ScalarStyle) (text : String) : Option Data :=
  if tag = standardTag "null" then if isNullWord text then some null else none
  else if tag = standardTag "bool" then (booleanWord? text).map boolean
  else if tag = standardTag "int" then ((integer? text).bind ofInteger).join
  else if tag = standardTag "float" then (real? text).map real
  else if isOwnTag tag then ofUntagged? style text
  else some (string text)

def ofScalar? (tag : Option TagBytes) (style : ScalarStyle) (text : String) : Option Data :=
  match tag with
  | some tag => ofTagged? tag style text
  | none => ofUntagged? style text

/-! ## Text of numbers -/

/-- The text of a real number: shortest digits, with a point or an exponent. The
point stands among the first sixteen digits or up to four zeros before them; all
else is written with an exponent. -/
def writeReal (number : Binary64) : String :=
  let sign := if number.isNegative then "-" else ""
  if number.isNaN then ".nan"
  else if number.isInfinite then sign ++ ".inf"
  else if number.magnitude = 0 then sign ++ "0.0"
  else
    let shortest := Shortest.significant .even number
    let digits := Decimal.writeNat shortest.digits
    let position : Int := digits.length + shortest.exponent
    if -5 < position && position ≤ 16 then
      sign ++ Shortest.positional shortest ++ if 0 ≤ shortest.exponent then ".0" else ""
    else
      let fraction := digits.toList.drop 1
      let point := if fraction.isEmpty then "" else "."
      sign ++ String.ofList (digits.toList.take 1) ++ point ++ String.ofList fraction ++ "e" ++
        Decimal.writeInt (position - 1)

example : writeReal (Binary64.ofInt (Int.pow 10 15)) = "1000000000000000.0" := by decide +kernel
example : writeReal (Binary64.ofInt (Int.pow 10 16)) = "1e16" := by decide +kernel
example : (Decimal.readReal? "1e-5").map writeReal = some "0.00001" := by decide +kernel
example : (Decimal.readReal? "-1.5e-7").map writeReal = some "-1.5e-7" := by decide +kernel

def scalarText? : Data → Option String
  | string text => some text
  | integer value => some (Decimal.writeInt value)
  | real value => some (writeReal value)
  | boolean value => some (if value then "true" else "false")
  | _ => none

end Data
end DocumentTypes.Yaml
