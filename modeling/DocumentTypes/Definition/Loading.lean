import DocumentTypes.Definition.Plan
import DocumentTypes.Definition.Reader
import DocumentTypes.Store.Registration

/-! # Loading

A schema document is planned, and then carried out: first all types, then all
schemas, then all facets. When it cannot be planned, nothing is registered. -/

namespace DocumentTypes

namespace Action

/-- Plan the schemas of a document in their order, with a notice for each. -/
def planSchemas : List (String × SchemaDefinition) →
    Attempt (List SchemaPlan × List TypeName)
  | [] => return ([], [])
  | (name, definition) :: rest => do
    let store ← get
    let (plan, qualified) ← Drafting.schema store.registry store.registryId name definition
    note (.schemaRead name definition.types.length definition.fields.length)
    let (plans, others) ← planSchemas rest
    return (plan :: plans, qualified ++ others)

def plan (document : SchemaDocument) : Attempt Plan := do
  let (schemas, qualified) ← planSchemas document.schemas
  Plan.checkQualified (← get).registry (Plan.builtNames schemas) qualified
  return ⟨schemas, document.facets⟩

end Action

namespace Attempt

def enterType (blueprint : Blueprint) : Attempt Unit := do
  Action.registerType (← build blueprint)

def enterSchema (blueprint : Blueprint) : Attempt Unit := do
  registerSchema (← build blueprint)

def carryOut (plan : Plan) : Attempt Unit := do
  (plan.schemas.flatMap SchemaPlan.types).forM enterType
  (plan.schemas.map SchemaPlan.schema).forM enterSchema
  plan.facets.forM fun facet => do
    let _ ← Action.registerFacet facet.1 facet.2

def load (document : SchemaDocument) : Attempt Unit := do
  carryOut (← Action.plan document)

def loadText (text : String) : Attempt Unit := do
  load (← SchemaDocument.ofText text)

def loadFile (content : Option (List UInt8)) : Attempt Unit := do
  match content with
  | none => throw .fileNotFound
  | some bytes =>
    match String.fromUTF8? bytes.toByteArray with
    | some text => loadText text
    | none => throw .fileNotText

end Attempt
end DocumentTypes
