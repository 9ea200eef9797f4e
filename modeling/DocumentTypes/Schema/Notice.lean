import DocumentTypes.Failure
import DocumentTypes.Name
import DocumentTypes.Schema.Reference

/-! # Notices

What is reported beside the answers: what happened, and what was passed over. One notice
says that nothing will happen any more. -/

namespace DocumentTypes

inductive Notice
  | redefinedType (name : TypeName)
  | qualifierMoved (qualifier source target : String)
  | schemaRegistered (name : String)
  | schemaUnregistered (name : String)
  | facetInvalidated (facet schema : String)
  | facetSchemaUnknown (facet schema : String)
  | facetRegistered (name : String)
  | nullSchemaIgnored
  | schemaSkipped (name : String)
  | merged (schemas fields generation : Nat)
  /-- A field came after it was settled whether its type accepts any content. -/
  | lateField (name : QualifiedName)
  | fieldDefaultIgnored (name : QualifiedName) (cause : Failure)
  | listDefaultIgnored (text : String) (cause : Failure)
  | schemaRead (name : String) (types fields : Nat)
  /-- A type waits for itself, and what would follow is never reached. -/
  | endless
  deriving DecidableEq, Repr

namespace Notice

inductive Level
  | debug
  | info
  | warning
  deriving DecidableEq, Repr

def Level.name : Level → String
  | .debug => "DEBUG"
  | .info => "INFO"
  | .warning => "WARN"

def level : Notice → Level
  | redefinedType _ | facetInvalidated .. | merged .. | schemaRead .. => .debug
  | schemaRegistered _ | schemaUnregistered _ | facetRegistered _ => .info
  | qualifierMoved .. | facetSchemaUnknown .. | nullSchemaIgnored | schemaSkipped _
  | lateField _ | fieldDefaultIgnored .. | listDefaultIgnored .. | endless => .warning

def detail : Notice → String
  | redefinedType name => "[registry] Redefined type: " ++ name.schema ++ ":" ++ name.name
  | qualifierMoved qualifier source target =>
    "[registry] prefix " ++ qualifier ++ " moved from schema " ++ source ++ " to " ++ target
  | schemaRegistered name => "[registry] Registered schema: " ++ name
  | schemaUnregistered name => "[registry] Unregistered schema: " ++ name
  | facetInvalidated facet schema =>
    "[registry] facet " ++ facet ++ " invalidated by " ++ schema
  | facetSchemaUnknown facet schema =>
    "[registry] facet " ++ facet ++ " references unknown schema " ++ schema
  | facetRegistered name => "[registry] Registered facet: " ++ name
  | nullSchemaIgnored => "[composite] null schema reference ignored"
  | schemaSkipped name => "[composite] schema " ++ name ++ " cannot be resolved, skipped"
  | merged schemas fields generation =>
    "[composite] merged " ++ Decimal.writeNat schemas ++ " schemas, " ++
      Decimal.writeNat fields ++ " fields (generation " ++ Decimal.writeNat generation ++ ")"
  | lateField name =>
    "[complex] field " ++ name.text ++ " added after unstructured flag was frozen"
  | fieldDefaultIgnored name cause =>
    "[complex] default value of " ++ name.text ++ " ignored: " ++ cause.message
  | listDefaultIgnored text cause =>
    "[list] default value " ++ Text.quote text ++ " ignored: " ++ cause.message
  | schemaRead name types fields =>
    "[loader] schema " ++ name ++ ": " ++ Decimal.writeNat types ++ " types, " ++
      Decimal.writeNat fields ++ " fields"
  | endless => "[type] waits for itself"

def text (notice : Notice) : String := notice.level.name ++ " " ++ notice.detail

end Notice
end DocumentTypes
