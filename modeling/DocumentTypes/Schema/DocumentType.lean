import DocumentTypes.Constraint
import DocumentTypes.Schema.Field

/-! # Document types

A type describes the acceptable shape of a value. Its name, its base and its flags
never change; what its kind adds may be memoized, extended or merged again. -/

namespace DocumentTypes

/-- Constraints over a base, and the primitive at the end of the chain of bases
once that has been found. -/
structure SimpleType where
  constraints : List Constraint
  primitive : Option TypeId := none

namespace SimpleType

def failing? (simple : SimpleType) (value : Value) : Option Constraint :=
  simple.constraints.find? fun constraint => !constraint.accepts value

def admits (simple : SimpleType) (value : Value) : Bool := (simple.failing? value).isNone

end SimpleType

/-- Fields in the order of their declaration, those of the base first. Lookups are
remembered until the next declaration. -/
structure ComplexType where
  space : Namespace
  /-- Whether instances accept arbitrary content, if that is laid down. -/
  unstructured : Option Bool
  /-- The answer to that question once it has been given. -/
  frozen : Option Bool := none
  fields : Table QualifiedName Field
  lookups : Table String Field := .empty
  /-- How many fields the type itself has ever declared. -/
  declared : Nat := 0

namespace ComplexType

/-- The field that a name means: the one of this qualified name, or else, for a
name without qualifier, the first of that local name. Inherited fields keep the
qualifier of the schema that declared them. -/
def find? (complex : ComplexType) (name : String) : Option Field :=
  match complex.fields.get? (.parse name complex.space.qualifier) with
  | some field => some field
  | none =>
    if name.contains ':' then none
    else complex.fields.values.find? fun field => field.localName == name

/-- Declare a field; a name that is already there keeps its place. -/
def declare (complex : ComplexType) (id : TypeId) (name : TypeName)
    (declaration : FieldDeclaration) : ComplexType × Field :=
  let field : Field := {
    owner := id
    serial := complex.declared
    ownerName := name
    name := .parse declaration.name complex.space.qualifier
    valueType := declaration.valueType
    defaultText := declaration.defaultText
    flags := declaration.flags
    minOccurs := declaration.minOccurs
    maxOccurs := declaration.maxOccurs }
  ({ complex with
      fields := complex.fields.put field.name field
      lookups := .empty
      declared := complex.declared + 1 }, field)

def lookUp (complex : ComplexType) (name : String) : ComplexType × Option Field :=
  match complex.lookups.get? name with
  | some field => (complex, some field)
  | none =>
    match complex.find? name with
    | some field => ({ complex with lookups := complex.lookups.put name field }, some field)
    | none => (complex, none)

/-- Whether instances accept arbitrary content: unless laid down, they do when
there are no fields. -/
def isOpen (complex : ComplexType) : Bool :=
  complex.frozen.getD (complex.unstructured.getD complex.fields.isEmpty)

def freeze (complex : ComplexType) : ComplexType := { complex with frozen := some complex.isOpen }

end ComplexType

/-- The fields of several schemas as they were at one moment. -/
structure Snapshot where
  /-- How many mergers there have been, this one included. -/
  generation : Nat
  /-- The number of the request that it answers. -/
  revision : Nat
  schemas : List TypeId
  qualifiers : Table String TypeId
  fieldsByName : Table String Field
  fields : List Field
  deriving Inhabited

namespace Snapshot

def empty : Snapshot := ⟨0, 0, [], .empty, .empty, []⟩

/-- Add the fields of one more schema, which win over earlier ones of their name. -/
def addSchema (snapshot : Snapshot) (schema : TypeId) (qualifier : String)
    (fields : List Field) : Snapshot :=
  { snapshot with
    schemas := snapshot.schemas ++ [schema]
    qualifiers :=
      if qualifier = "" then snapshot.qualifiers else snapshot.qualifiers.put qualifier schema
    fieldsByName := fields.foldl (fun byName field =>
      (byName.put field.localName field).put field.name.text field) snapshot.fieldsByName
    fields := snapshot.fields ++ fields }

def held (snapshot : Snapshot) : List TypeId :=
  snapshot.schemas ++ snapshot.fields.flatMap Field.held

end Snapshot

/-- Schemas under their names, with what they were last merged into. -/
structure CompositeType where
  references : Table String TypeRef
  /-- The number of the latest request for a merger. -/
  requested : Nat
  merged : Snapshot

namespace CompositeType

def empty : CompositeType := ⟨.empty, 1, .empty⟩

/-- Register a schema. A name that is already there keeps its place. -/
def addSchema (composite : CompositeType) (name : String) (reference : TypeRef) :
    CompositeType :=
  { composite with
    references := composite.references.put name reference
    requested := composite.requested + 1 }

def invalidate (composite : CompositeType) : CompositeType :=
  { composite with requested := composite.requested + 1 }

def isCurrent (composite : CompositeType) : Bool :=
  composite.requested ≤ composite.merged.revision

end CompositeType

/-- A repeated item, described by a field. A list without a name for its items is
an array. -/
structure ListType where
  item : Field
  isArray : Bool
  defaultText : Option String
  minOccurs : Int
  maxOccurs : Int

def arrayItemName : String := "item"

inductive TypeKind
  | primitive (kind : PrimitiveKind)
  | simple (simple : SimpleType)
  | complex (complex : ComplexType)
  | composite (composite : CompositeType)
  | list (list : ListType)

structure DocumentType where
  name : TypeName
  base : TypeRef
  flags : UInt16
  kind : TypeKind

def primitiveSchema : String := "system"

/-- The name of the type of blobs, whose fresh instances are null. -/
def contentTypeName : String := "content"

namespace DocumentType

def readOnlyFlag : UInt16 := 1
def notNullFlag : UInt16 := 2

def isReadOnly (type : DocumentType) : Bool := type.flags &&& readOnlyFlag != 0

def isNotNull (type : DocumentType) : Bool := type.flags &&& notNullFlag != 0

def primitive? (type : DocumentType) : Option PrimitiveKind :=
  match type.kind with
  | .primitive kind => some kind
  | _ => none

def simple? (type : DocumentType) : Option SimpleType :=
  match type.kind with
  | .simple simple => some simple
  | _ => none

def complex? (type : DocumentType) : Option ComplexType :=
  match type.kind with
  | .complex complex => some complex
  | _ => none

def composite? (type : DocumentType) : Option CompositeType :=
  match type.kind with
  | .composite composite => some composite
  | _ => none

def list? (type : DocumentType) : Option ListType :=
  match type.kind with
  | .list list => some list
  | _ => none

def isSimple (type : DocumentType) : Bool := type.primitive?.isSome || type.simple?.isSome

def held (type : DocumentType) : List TypeId :=
  type.base.held ++ match type.kind with
    | .primitive _ => []
    | .simple simple => simple.primitive.toList
    | .complex complex => complex.fields.values.flatMap Field.held
    | .composite composite =>
      composite.references.values.flatMap TypeRef.held ++ composite.merged.held
    | .list list => list.item.held

end DocumentType
end DocumentTypes
