import DocumentTypes.Name
import DocumentTypes.Yaml.Data

/-! # Definitions

What a schema document declares, before any type is built from it. Names stand in
document order, each of them once. -/

namespace DocumentTypes

/-- A simple type: the type it derives from, and what it adds to it. -/
structure SimpleTypeDefinition where
  base : String := ""
  enumeration : Option (List Yaml.Data) := none
  minLength : Option Nat := none
  maxLength : Option Nat := none
  pattern : Option String := none
  min : Option Binary64 := none
  max : Option Binary64 := none
  notNull : Bool := false
  deriving Inhabited

/-- A field: a type by name, or fields of its own. A list has its default and its
bounds on the list. -/
structure FieldDefinition where
  typeName : Option String := none
  fields : List (String × FieldDefinition) := []
  isList : Bool := false
  itemName : Option String := none
  default : Option Yaml.Data := none
  nillable : Bool := false
  constant : Bool := false
  minOccurs : Option Int := none
  maxOccurs : Option Int := none
  deriving Inhabited

namespace FieldDefinition

/-- The text of the default. That of a sequence holds its scalars, one blank
apart. -/
def defaultText? (field : FieldDefinition) : Option String :=
  field.default.bind fun
    | .sequence items => some (" ".intercalate (items.filterMap Yaml.Data.scalarText?))
    | data => data.scalarText?

end FieldDefinition

structure SchemaDefinition where
  qualifier : Option String := none
  uri : Option String := none
  types : List (String × SimpleTypeDefinition) := []
  fields : List (String × FieldDefinition) := []
  deriving Inhabited

namespace SchemaDefinition

def space (schema : SchemaDefinition) : Namespace :=
  ⟨schema.uri.getD "", schema.qualifier.getD ""⟩

end SchemaDefinition

/-- Schemas, and facets with the names of the schemas that each of them merges. -/
structure SchemaDocument where
  schemas : List (String × SchemaDefinition) := []
  facets : List (String × List String) := []
  deriving Inhabited

end DocumentTypes
