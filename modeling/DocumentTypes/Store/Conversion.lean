import DocumentTypes.Store.Lookup
import DocumentTypes.Store.Text

/-! # Conversion

A value becomes the representation that a type expects: scalars through the
primitive, maps entry by entry through the fields of their keys, sequences item by
item. What cannot be resolved leaves a value as it is. -/

namespace DocumentTypes

inductive Conversion
  | scalar (codec : Option PrimitiveKind)
  | record (field? : String → Action (Option Field))
  | sequence (item : Option TypeId)

/-- The conversion of a type at this moment. A composite finds fields in one
snapshot from beginning to end. -/
def Action.conversionOf (id : TypeId) : Action Conversion := do
  match (← type? id).map DocumentType.kind with
  | some (.primitive _) | some (.simple _) => return .scalar (← codecOf id)
  | some (.complex _) => return .record (lookUp id)
  | some (.composite _) =>
    let snapshot ← snapshotOf id
    return .record fun name => return snapshot.fieldsByName.get? name
  | some (.list list) => return .sequence (← resolve list.item.valueType)
  | none => return .scalar none

namespace Attempt

/-- The type of the field under a key. The key has to name a field, but the field's
type need not be resolvable. -/
def typeUnder (field? : String → Action (Option Field)) (key : String) :
    Attempt (Option TypeId) := do
  match ← field? key with
  | some field => Action.resolve field.valueType
  | none => throw (.noSuchField key)

mutual

def convert : Value → TypeId → Attempt Value
  | value, id => do
    match ← Action.conversionOf id with
    | .scalar none => return value
    | .scalar (some codec) => codec.convert value
    | .record field? =>
      match value with
      | .null => return .null
      | .map entries => return .map (← convertEntries entries field?)
      | other => throw (.expectedMap other.shape)
    | .sequence item =>
      match value with
      | .null => return .null
      | .list items => return .list (← convertItems items item)
      | .array items => return .array (← convertItems items item)
      | other => throw (.expectedList other.shape)
termination_by structural value => value

def convertEntries : List (String × Value) → (String → Action (Option Field)) →
    Attempt (List (String × Value))
  | [], _ => return []
  | (key, entry) :: rest, field? => do
    let converted ← match ← typeUnder field? key with
      | some valueType => convert entry valueType
      | none => pure entry
    return (key, converted) :: (← convertEntries rest field?)
termination_by structural entries => entries

def convertItems : List Value → Option TypeId → Attempt (List Value)
  | [], _ => return []
  | item :: rest, id => do
    let converted ← match id with
      | some id => convert item id
      | none => pure item
    return converted :: (← convertItems rest id)
termination_by structural items => items

end

end Attempt
end DocumentTypes
