import DocumentTypes.Schema.DocumentType
import DocumentTypes.Text.Order

/-! # Registries

The tables behind named references: types by schema and name, schemas by name and
by qualifier, and facets, which are composites of schemas. -/

namespace DocumentTypes

def facetSchema : String := "facets"

structure Registry where
  types : Table TypeName TypeId
  schemas : Table String TypeId
  /-- The name of the schema that owns a qualifier. -/
  qualifiers : Table String String
  facets : Table String TypeId
  /-- Top-level fields that were looked up since the schemas last changed. -/
  fieldLookups : Table String Field
  deriving Inhabited

namespace Registry

def empty : Registry := ⟨.empty, .empty, .empty, .empty, .empty⟩

def schemaByQualifier? (registry : Registry) (qualifier : String) : Option TypeId :=
  (registry.qualifiers.get? qualifier).bind registry.schemas.get?

/-- The schema that the qualifier of a path means: by qualifier, or else by name. -/
def schemaFor? (registry : Registry) (qualifier : String) : Option TypeId :=
  (registry.schemaByQualifier? qualifier).orElse fun _ => registry.schemas.get? qualifier

/-- A schema gives up its qualifier, unless another schema has taken it over. -/
def releaseQualifier (registry : Registry) (qualifier owner : String) : Registry :=
  if registry.qualifiers.get? qualifier = some owner then
    { registry with qualifiers := registry.qualifiers.erase qualifier }
  else registry

def schemaNames (registry : Registry) : List String := Text.sort registry.schemas.keys

def facetNames (registry : Registry) : List String := Text.sort registry.facets.keys

def held (registry : Registry) : List TypeId :=
  registry.types.values ++ registry.schemas.values ++ registry.facets.values ++
    registry.fieldLookups.values.flatMap Field.held

end Registry
end DocumentTypes
