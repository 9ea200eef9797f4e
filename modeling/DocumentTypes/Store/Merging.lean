import DocumentTypes.Store.Basic

/-! # Merging

A composite shows the fields of its schemas as one snapshot. A snapshot is taken
anew at the first access after a change was asked for, and it sees what the
schemas' references mean at that moment. A merger waits for the mergers of the
composites among its schemas. -/

namespace DocumentTypes.Action

def setComposite (id : TypeId) (composite : CompositeType) : Action Unit :=
  modify fun store => store.setKind id (.composite composite)

/-- Register a schema on a composite under the name that the reference aims at. -/
def addSchema (id : TypeId) (reference : TypeRef) : Action Unit := do
  match reference.target? with
  | none => note .nullSchemaIgnored
  | some target =>
    if let some composite := (← type? id).bind DocumentType.composite? then
      setComposite id (composite.addSchema target.name reference)

def invalidate (id : TypeId) : Action Unit := do
  if let some composite := (← type? id).bind DocumentType.composite? then
    setComposite id composite.invalidate

def mergeSchema (fieldsOf : TypeId → Action (List Field)) (snapshot : Snapshot)
    (entry : String × TypeRef) : Action Snapshot := do
  match ← resolve entry.2 with
  | none =>
    note (.schemaSkipped entry.1)
    return snapshot
  | some schema =>
    let space := ((← type? schema).bind DocumentType.complex?).map ComplexType.space
    let fields ← fieldsOf schema
    return snapshot.addSchema schema (space.elim "" Namespace.qualifier) fields

def merge (fieldsOf : TypeId → Action (List Field)) (id : TypeId) (composite : CompositeType) :
    Action Snapshot := do
  let start := { Snapshot.empty with
    generation := composite.merged.generation + 1
    revision := composite.requested }
  let snapshot ← composite.references.entries.foldlM (mergeSchema fieldsOf) start
  note (.merged snapshot.schemas.length snapshot.fields.length snapshot.generation)
  setComposite id { composite with merged := snapshot }
  return snapshot

/-- The fields of a type: those of a complex type as they are declared, those of a
composite as it shows them. More composites than there are types can only be merged
for each other if one of them is merged for itself. Then the merger never ends, and
there is no answer to what asked for it. -/
def fieldsWithin (depth : Nat) (id : TypeId) : Action (List Field) := do
  match (← type? id).map DocumentType.kind with
  | some (.complex complex) => return complex.fields.values
  | some (.composite composite) =>
    if composite.isCurrent then return composite.merged.fields
    else match depth with
      | 0 =>
        note .endless
        return []
      | depth + 1 => return (← merge (fieldsWithin depth) id composite).fields
  | _ => return []

def fieldsOf (id : TypeId) : Action (List Field) := do
  fieldsWithin ((← get).types.size + 1) id

def snapshotOf (id : TypeId) : Action Snapshot := do
  match (← type? id).bind DocumentType.composite? with
  | none => return .empty
  | some composite =>
    if composite.isCurrent then return composite.merged
    else merge (fieldsWithin (← get).types.size) id composite

end DocumentTypes.Action
