import DocumentTypes.Store.Building

/-! # Registration

Types, schemas and facets enter the registry under their names; whatever had a name
before is replaced. A change of a schema makes every facet that mentions it merge
again, and forgets the fields looked up so far. -/

namespace DocumentTypes

/-- A composite of schemas by their names, under the name of a facet. -/
def Blueprint.facet (registryId : RegistryId) (name : String) (schemas : List String) :
    Blueprint where
  name := ⟨facetSchema, name⟩
  body := .composite (schemas.map (TypeRef.schema registryId))

namespace Store

def setRegistry (store : Store) (registry : Registry) : Store := { store with registry }

def mentioning? (store : Store) (schema : String) (facet : TypeId) : Option CompositeType :=
  ((store.type? facet).bind DocumentType.composite?).filter fun composite =>
    composite.references.contains schema

end Store

namespace Action

/-! ## Types -/

def registerType (id : TypeId) : Action Unit := do
  if let some type ← type? id then
    let registry := (← get).registry
    modify fun store => store.setRegistry
      { registry with types := registry.types.put type.name id }
    if registry.types.contains type.name then note (.redefinedType type.name)

/-! ## Schemas -/

def invalidateFacet (schema : String) (facet : String × TypeId) : Action Unit := do
  if let some composite := (← get).mentioning? schema facet.2 then
    note (.facetInvalidated facet.1 schema)
    setComposite facet.2 composite.invalidate

def schemaChanged (schema : String) : Action Unit := do
  modify fun store => store.setRegistry { store.registry with fieldLookups := .empty }
  (← get).registry.facets.entries.forM (invalidateFacet schema)

def qualifierOf (id : TypeId) : Action String := do
  return ((← type? id).bind DocumentType.complex?).elim "" fun complex => complex.space.qualifier

/-- A schema under this name gives up the qualifier that it declares. -/
def releaseQualifier (schema : String) : Action Unit := do
  if let some previous := (← get).registry.schemas.get? schema then
    let qualifier ← qualifierOf previous
    modify fun store => store.setRegistry (store.registry.releaseQualifier qualifier schema)

/-- A schema takes a qualifier over from whatever schema owns it. -/
def claimQualifier (qualifier schema : String) : Action Unit := do
  if qualifier != "" then
    let registry := (← get).registry
    modify fun store => store.setRegistry
      { registry with qualifiers := registry.qualifiers.put qualifier schema }
    if let some owner := registry.qualifiers.get? qualifier then
      if owner != schema then note (.qualifierMoved qualifier owner schema)

def registerComplex (id : TypeId) (name : TypeName) (space : Namespace) : Action Unit := do
  releaseQualifier name.name
  claimQualifier space.qualifier name.name
  modify fun store => store.setRegistry { store.registry with
    types := store.registry.types.put name id
    schemas := store.registry.schemas.put name.name id }
  schemaChanged name.name
  note (.schemaRegistered name.name)

def unregisterSchema (schema : String) : Action Bool := do
  match (← get).registry.schemas.get? schema with
  | none => return false
  | some id =>
    releaseQualifier schema
    let home := (← type? id).elim "" fun type => type.name.schema
    modify fun store => store.setRegistry { store.registry with
      types := store.registry.types.erase ⟨home, schema⟩
      schemas := store.registry.schemas.erase schema }
    schemaChanged schema
    note (.schemaUnregistered schema)
    return true

/-! ## Facets -/

def noteUnknownSchema (facet schema : String) : Action Unit := do
  if !(← get).registry.schemas.contains schema then note (.facetSchemaUnknown facet schema)

/-- Register a composite of schemas by their names. Names of schemas that are not
registered yet are accepted. -/
def registerFacet (name : String) (schemas : List String) : Action TypeId := do
  schemas.forM (noteUnknownSchema name)
  let id ← build (.facet (← get).registryId name schemas)
  modify fun store => store.setRegistry { store.registry with
    facets := store.registry.facets.put name id
    types := store.registry.types.put ⟨facetSchema, name⟩ id }
  note (.facetRegistered name)
  return id

/-! ## Registries -/

def registerPrimitives : Action Unit :=
  PrimitiveKind.all.forM fun kind => do registerType (← build (.primitive kind))

/-- Begin anew with a registry of the primitives alone. References into the old one
mean nothing from then on. -/
def dropRegistry : Action Unit := do
  modify fun store => { store with
    registry := .empty
    registryId := ⟨store.registryId.number + 1⟩ }
  registerPrimitives

/-! ## Fields by path -/

/-- The field that a qualified name means in the schema of its qualifier. -/
def topLevelField (name : String) : Action (Option Field) := do
  match (← get).registry.fieldLookups.get? name with
  | some field => return some field
  | none =>
    let qualified := QualifiedName.parse name ""
    match (← get).registry.schemaFor? qualified.qualifier with
    | none => return none
    | some schema =>
      match ← lookUp schema qualified.localName with
      | none => return none
      | some field =>
        modify fun store => store.setRegistry { store.registry with
          fieldLookups := store.registry.fieldLookups.put name field }
        return some field

/-- The field that a path means. Its first segment is a qualified name. -/
def registeredField (path : String) : Action (Option Field) := do
  match Path.segments (Path.canonical path) with
  | [] => return none
  | first :: rest =>
    match ← topLevelField first with
    | some field => walk field rest
    | none => return none

end Action

/-- Register a type as a schema, which has to be complex. An id that names no type is
refused like a type of another kind. -/
def Attempt.registerSchema (id : TypeId) : Attempt Unit := do
  match ← Action.type? id with
  | none => throw (.schemaNotComplex "")
  | some type =>
    match type.kind with
    | .complex complex => Action.registerComplex id type.name complex.space
    | _ => throw (.schemaNotComplex type.name.name)

namespace Store

def blank : Store where
  types := #[]
  registry := .empty
  registryId := ⟨0⟩
  holdings := .empty
  notices := []

def initial : Store := (Action.registerPrimitives.run blank).2

end Store
end DocumentTypes
