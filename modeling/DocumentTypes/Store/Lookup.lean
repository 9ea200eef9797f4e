import DocumentTypes.Path
import DocumentTypes.Store.Merging

/-! # Lookup of fields

By name on a type, and by path from a field on. A path goes from a field to the
fields of its type; an index leads from a list to its elements. -/

namespace DocumentTypes.Action

def setComplex (id : TypeId) (complex : ComplexType) : Action Unit :=
  modify fun store => store.setKind id (.complex complex)

def lookUp (id : TypeId) (name : String) : Action (Option Field) := do
  match (← type? id).map DocumentType.kind with
  | some (.complex complex) =>
    let (complex, field) := complex.lookUp name
    setComplex id complex
    return field
  | some (.composite _) => return (← snapshotOf id).fieldsByName.get? name
  | _ => return none

def hasFields (id : TypeId) : Action Bool := return !(← fieldsOf id).isEmpty

/-! ## Declaration -/

/-- Declare a field on a complex type. Ids are given out by building, so one always
names a type; any other is refused like a type of another kind. -/
def declareField (id : TypeId) (declaration : FieldDeclaration) : Attempt Field := do
  match ← type? id with
  | none => throw (.notComplex "" "")
  | some type =>
    match type.kind with
    | .complex complex =>
      let (declared, field) := complex.declare id type.name declaration
      if complex.frozen.isSome then note (.lateField field.name)
      setComplex id declared
      return field
    | .composite _ => throw (.compositeDeclaresNoFields declaration.name)
    | _ => throw (.notComplex type.name.schema type.name.name)

/-! ## Paths -/

/-- One step of a path. An inner index stays at the list, because the next segment
names a field of its elements; a final one means the element. -/
def step (field : Field) (segment : String) (isLast : Bool) : Action (Option Field) := do
  match ← resolve field.valueType with
  | none => return none
  | some valueType =>
    match (← type? valueType).map DocumentType.kind with
    | some (.list list) =>
      if Path.isListIndex segment then return some (if isLast then list.item else field)
      else
        match ← resolve list.item.valueType with
        | none => return none
        | some item =>
          if ((← type? item).bind DocumentType.complex?).isSome then lookUp item segment
          else if list.item.localName = segment then return some list.item
          else return none
    | some (.complex _) | some (.composite _) => lookUp valueType segment
    | _ => return none

def walk (field : Field) : List String → Action (Option Field)
  | [] => return some field
  | segment :: rest => do
    match ← step field segment rest.isEmpty with
    | some next => walk next rest
    | none => return none

def fieldAt (id : TypeId) (path : String) : Action (Option Field) := do
  match Path.segments (Path.canonical path) with
  | [] => return none
  | first :: rest =>
    match ← lookUp id first with
    | some field => walk field rest
    | none => return none

end DocumentTypes.Action
