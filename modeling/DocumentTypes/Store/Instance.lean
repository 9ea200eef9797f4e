import DocumentTypes.Store.Merging
import DocumentTypes.Store.Text

/-! # Fresh instances

The value of a type before anybody has filled it in. A default that cannot be read
is passed over with a notice. -/

namespace DocumentTypes.Action

def defaultOrNull (field : Field) : Action Value := do
  match ← (Attempt.defaultOf field).run with
  | .ok value => return value
  | .error cause =>
    note (.fieldDefaultIgnored field.name cause)
    return .null

/-- The items of a list's default, or none when there is no default. -/
def defaultItems (id : TypeId) (list : ListType) : Action (List Value) := do
  match list.defaultText with
  | none => return []
  | some text =>
    match ← (Attempt.decode id (some text)).run with
    | .ok (.array items) => return items
    | .ok _ => return []
    | .error cause =>
      note (.listDefaultIgnored text cause)
      return []

/-- What a field holds in a fresh instance: an empty list, an instance of a
structured type, or else its default. -/
def instantiateField (instantiate : TypeId → Action Value) (field : Field) : Action Value := do
  match ← resolve field.valueType with
  | none => defaultOrNull field
  | some valueType =>
    match (← type? valueType).map DocumentType.kind with
    | some (.list _) => return .list []
    | some (.complex _) | some (.composite _) => instantiate valueType
    | _ => defaultOrNull field

/-- A map from local names; of fields with the same local name the last counts. -/
def instantiateFields (instantiate : TypeId → Action Value) (fields : List Field) :
    Action Value := do
  let entries ← fields.mapM fun field => return (field.localName,
    ← instantiateField instantiate field)
  return .map (Table.ofList entries).entries

/-- An instance with structured types nested at most to the given depth. Nested deeper than
there are types, a type is part of itself: its instance never ends, and there is no answer. -/
def instantiateWithin : Nat → TypeId → Action Value
  | 0, _ => do
    note .endless
    return .null
  | depth + 1, id => do
    match ← type? id with
    | none => return .null
    | some type =>
      match type.kind with
      | .primitive _ | .simple _ => return (← codecOf id).elim .null PrimitiveKind.newInstance
      | .complex complex =>
        if type.name.name = contentTypeName then return .null
        else instantiateFields (instantiateWithin depth) complex.fields.values
      | .composite _ =>
        instantiateFields (instantiateWithin depth) (← snapshotOf id).fields
      | .list list => return .list (← defaultItems id list)

def instantiate (id : TypeId) : Action Value := do
  instantiateWithin ((← get).types.size + 1) id

end DocumentTypes.Action
