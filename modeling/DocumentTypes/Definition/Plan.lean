import DocumentTypes.Definition.Basic
import DocumentTypes.Store.Building

/-! # Plans

A schema document is planned as a whole before anything is built: every name is
checked against the document and against what is registered. A plan that has been
made can always be carried out. -/

namespace DocumentTypes

/-- The types of one schema: those that are registered as types, and the schema
itself. -/
structure SchemaPlan where
  name : String
  types : List Blueprint
  schema : Blueprint

structure Plan where
  schemas : List SchemaPlan
  facets : List (String × List String)

/-! ## Names -/

/-- What a type name in a schema can mean: the schema that it stands in, the types
declared there, and the registry. -/
structure Scope where
  schema : String
  declared : List String
  registry : Registry
  registryId : RegistryId

/-- What has been planned so far, and the qualified names that were used. -/
structure Draft where
  types : List Blueprint
  qualified : List TypeName

abbrev Drafting := StateT Draft (Except Failure)

namespace Drafting

def addType (blueprint : Blueprint) : Drafting Unit :=
  modify fun draft => { draft with types := draft.types ++ [blueprint] }

/-- A name with a schema in it is looked up later. A bare name means a type of the
schema itself, or else a primitive. -/
def resolve (scope : Scope) (name : String) : Drafting TypeRef := do
  match splitOnce? ':' name with
  | some (schema, rest) =>
    modify fun draft => { draft with qualified := draft.qualified ++ [⟨schema, rest⟩] }
    return .named scope.registryId ⟨schema, rest⟩
  | none =>
    if scope.declared.contains name || scope.registry.types.contains ⟨scope.schema, name⟩ then
      return .named scope.registryId ⟨scope.schema, name⟩
    else if (PrimitiveKind.ofName? name).isSome then
      return .named scope.registryId ⟨primitiveSchema, name⟩
    else throw (.unknownBareType scope.schema name)

/-! ## Simple types -/

def constraints (definition : SimpleTypeDefinition) : Except Failure (List Constraint) := do
  let pattern ← definition.pattern.mapM FullPattern.ofText?
  let literals := definition.enumeration.map fun items =>
    Constraint.oneOf (items.filterMap Yaml.Data.scalarText?)
  let length := if definition.minLength.isNone && definition.maxLength.isNone then none
    else some (Constraint.length ⟨definition.minLength, definition.maxLength⟩)
  let interval := if definition.min.isNone && definition.max.isNone then none
    else some (Constraint.interval (.inclusive definition.min definition.max))
  return [literals, length, pattern.map Constraint.pattern, interval].filterMap id

def simpleType (scope : Scope) (name : String) (definition : SimpleTypeDefinition) :
    Drafting Unit := do
  let base ← resolve scope definition.base
  let constraints ← constraints definition
  addType {
    name := ⟨scope.schema, name⟩
    base
    flags := if definition.notNull then DocumentType.notNullFlag else 0
    body := .simple constraints }

/-! ## Fields

Nested fields and lists get types of their own, named by the path of the field
behind a mark that no declared type name may hold. -/

def nestedTypeName (path : String) : String := String.singleton Failure.anonymousMark ++ path

def listTypeName (path : String) : String :=
  nestedTypeName path ++ String.singleton Failure.anonymousMark ++ "list"

def flags (field : FieldDefinition) : UInt16 :=
  (if field.nillable then Field.nillableFlag else 0) |||
    (if field.constant then Field.constantFlag else 0)

/-- The declaration of a field. A list keeps its default and its bounds on its own
type. -/
def declaration (name : String) (field : FieldDefinition) (valueType : TypeRef) :
    FieldDeclaration :=
  if field.isList then { name, valueType, flags := flags field }
  else {
    name
    valueType
    defaultText := field.defaultText?
    flags := flags field
    minOccurs := field.minOccurs.getD 1
    maxOccurs := field.maxOccurs.getD 1 }

def repeated (scope : Scope) (path : String) (field : FieldDefinition) (item : TypeRef) :
    Drafting TypeRef := do
  if !field.isList then return item
  else
    let name : TypeName := ⟨scope.schema, listTypeName path⟩
    addType {
      name
      body := .list item field.itemName field.defaultText? (field.minOccurs.getD 0)
        (field.maxOccurs.getD unbounded) }
    return .named scope.registryId name

mutual

def fieldType (scope : Scope) (space : Namespace) (path : String) :
    FieldDefinition → Drafting TypeRef
  | field@(.mk typeName fields _ _ _ _ _ _ _) => do
    let item ←
      if fields.isEmpty then
        match typeName with
        | some name => resolve scope name
        | none => throw (.untypedField scope.schema path)
      else
        let declarations ← declarations scope space (path ++ "/") fields
        let name : TypeName := ⟨scope.schema, nestedTypeName path⟩
        addType { name, body := .complex space none declarations }
        pure (.named scope.registryId name)
    repeated scope path field item

/-- The declarations of fields whose paths begin in the same way. -/
def declarations (scope : Scope) (space : Namespace) (leading : String) :
    List (String × FieldDefinition) → Drafting (List FieldDeclaration)
  | [] => return []
  | (name, field) :: rest => do
    let valueType ← fieldType scope space (leading ++ name) field
    return declaration name field valueType :: (← declarations scope space leading rest)

end

/-! ## Schemas -/

/-- A declared type name may not hold the mark of generated names. -/
def checkNames (schema : String) (definition : SchemaDefinition) : Except Failure Unit :=
  match definition.types.find? fun entry => entry.1.toList.contains Failure.anonymousMark with
  | some (name, _) => throw (.reservedTypeName schema name)
  | none => return ()

def schema (registry : Registry) (registryId : RegistryId) (name : String)
    (definition : SchemaDefinition) : Except Failure (SchemaPlan × List TypeName) := do
  checkNames name definition
  let scope := {
    schema := name, declared := definition.types.map Prod.fst, registry, registryId }
  let body : Drafting (List FieldDeclaration) := do
    definition.types.forM fun entry => simpleType scope entry.1 entry.2
    declarations scope definition.space "" definition.fields
  let (fields, draft) ← body.run ⟨[], []⟩
  let schema : Blueprint :=
    { name := ⟨name, name⟩, body := .complex definition.space none fields }
  return (⟨name, draft.types, schema⟩, draft.qualified)

end Drafting

/-! ## Documents -/

namespace Plan

/-- The names of all types that carrying out the schemas registers. -/
def builtNames (schemas : List SchemaPlan) : List TypeName :=
  schemas.flatMap fun schema => schema.types.map Blueprint.name ++ [schema.schema.name]

/-- Every qualified name has to be built or registered already. -/
def checkQualified (registry : Registry) (built : List TypeName) (qualified : List TypeName) :
    Except Failure Unit :=
  qualified.forM fun name =>
    if built.contains name || registry.types.contains name then return ()
    else throw (.unknownType name.schema name.name)

end Plan
end DocumentTypes
