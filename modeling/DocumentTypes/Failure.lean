import DocumentTypes.Primitive.Kind
import DocumentTypes.Text.Quoted
import DocumentTypes.Value

/-! # Failures

Why an operation has no result. Every failure is a cause with the data that its
message shows; `category` and `message` are the only places that say how failures
are reported. -/

namespace DocumentTypes

inductive Failure
  /-- A value of one shape has no form as a primitive. -/
  | cannotConvert (found : Shape) (target : PrimitiveKind)
  /-- A map has a key that names no field. -/
  | noSuchField (key : String)
  | expectedMap (found : Shape)
  | expectedList (found : Shape)
  /-- A text is not in the form that a primitive reads. -/
  | undecodable (text : String) (target : PrimitiveKind)
  /-- Only complex types can be registered as schemas. -/
  | schemaNotComplex (name : String)
  /-- Only complex types declare fields. -/
  | notComplex (schema name : String)
  /-- The fields of a composite come from its schemas. -/
  | compositeDeclaresNoFields (name : String)
  /-- A reference names a type that is not registered. -/
  | unknownType (schema name : String)
  /-- A schema document is not a well-formed document of the expected shape. -/
  | malformedDocument
  | invalidPattern (pattern : String)
  /-- A bare type name in a schema document means nothing. -/
  | unknownBareType (schema name : String)
  /-- A field in a schema document has neither a type nor fields of its own. -/
  | untypedField (schema path : String)
  /-- A declared type name contains the mark of generated names. -/
  | reservedTypeName (schema name : String)
  | fileNotFound
  | fileNotText
  /-- A simple type derives from another type. -/
  | supertypeRequired (schema name : String)
  deriving DecidableEq, Repr

namespace Failure

inductive Category
  | typeMismatch
  | decode
  | unsupported
  | unknownType
  | load
  | inputOutput
  /-- A construction that its caller has to rule out. -/
  | misuse
  deriving DecidableEq, Repr

def category : Failure → Category
  | cannotConvert .. | noSuchField .. | expectedMap .. | expectedList .. => .typeMismatch
  | undecodable .. => .decode
  | schemaNotComplex .. | notComplex .. | compositeDeclaresNoFields .. => .unsupported
  | unknownType .. => .unknownType
  | malformedDocument | invalidPattern .. | unknownBareType .. | untypedField ..
  | reservedTypeName .. => .load
  | fileNotFound | fileNotText => .inputOutput
  | supertypeRequired .. => .misuse

/-- The mark that begins generated type names and is reserved for them. -/
def anonymousMark : Char := '#'

def detail : Failure → String
  | cannotConvert found target =>
    "cannot convert " ++ found.name ++ " value to " ++ target.name
  | noSuchField key => "no field named " ++ key
  | expectedMap found => "expected map, got " ++ found.name
  | expectedList found => "expected list, got " ++ found.name
  | undecodable text target => Text.quote text ++ " as " ++ target.name
  | schemaNotComplex name => "schema " ++ name ++ " must be a complex type"
  | notComplex schema name => schema ++ ":" ++ name ++ " is not a complex type"
  | compositeDeclaresNoFields name =>
    "cannot add field " ++ name ++
      ": composite types are compositions, not field containers"
  | unknownType schema name => schema ++ ":" ++ name
  | malformedDocument => "Failed to parse YAML"
  | invalidPattern pattern => "invalid pattern " ++ Text.quote pattern
  | unknownBareType schema name => "schema " ++ schema ++ ": unknown type " ++ name
  | untypedField schema path =>
    "schema " ++ schema ++ ": field " ++ path ++ " has neither type nor fields"
  | reservedTypeName schema name =>
    "schema " ++ schema ++ ": type name " ++ name ++ " contains reserved '" ++
      String.singleton anonymousMark ++ "'"
  | fileNotFound => "No such file or directory (os error 2)"
  | fileNotText => "stream did not contain valid UTF-8"
  | supertypeRequired schema name =>
    "simple type " ++ schema ++ ":" ++ name ++ " requires a supertype"

def Category.heading : Category → String
  | .typeMismatch => "Type mismatch: "
  | .decode => "Cannot decode "
  | .unsupported => "Unsupported operation: "
  | .unknownType => "Unknown type: "
  | .load => "Schema load failed: "
  | .inputOutput => "I/O error: "
  | .misuse => ""

def message (failure : Failure) : String := failure.category.heading ++ failure.detail

example : (undecodable "abc" .long).message = "Cannot decode \"abc\" as long" := by
  decide +kernel
example : (unknownType "dc" "title").message = "Unknown type: dc:title" := by decide +kernel

end Failure
end DocumentTypes
