import DocumentTypes.Primitive.Codec
import DocumentTypes.Store.Basic

/-! # Ancestry

A type derives from its base, and so on until a base cannot be resolved. What a
simple type accepts, and the primitive that reads and writes its values, are found
along this chain. A chain without repetition is no longer than the store. -/

namespace DocumentTypes

namespace Store

def base? (store : Store) (id : TypeId) : Option TypeId :=
  (store.type? id).bind fun type => store.resolve type.base

/-- The bases of a type, nearest first, up to the given number. -/
def ancestors (store : Store) : Nat → TypeId → List TypeId
  | 0, _ => []
  | count + 1, id =>
    match store.base? id with
    | some base => base :: ancestors store count base
    | none => []

/-- Whether a type is another one or a base of it. Types are told apart by their
identity, never by their names. -/
def isSuperTypeOf (store : Store) (id other : TypeId) : Bool :=
  id == other || (store.ancestors store.types.size other).contains id

/-! ## Validation -/

/-- Whether a type accepts a value, with at most the given number of steps along
the chain. -/
def accepts (store : Store) : Nat → TypeId → Value → Bool
  | 0, _, _ => false
  | count + 1, id, value =>
    match store.type? id with
    | none => false
    | some type =>
      match type.kind with
      | .composite _ => true
      | kind =>
        if value.isNull then !type.isNotNull
        else match kind with
          | .primitive primitive => primitive.validate value
          | .simple simple =>
            simple.admits value && (store.resolve type.base).all fun base =>
              accepts store count base value
          | .list _ => value.isSequence
          | .complex _ | .composite _ => true

def validate (store : Store) (id : TypeId) (value : Value) : Bool :=
  store.accepts (store.types.size + 1) id value

end Store

namespace Action

/-! ## Primitives -/

/-- Remember the primitive that a simple type was found to be built on. -/
def rememberPrimitive (id primitive : TypeId) : Action Unit := do
  if let some type ← type? id then
    if let .simple simple := type.kind then
      modify fun store => store.setKind id (.simple { simple with primitive := some primitive })

/-- The primitive at the end of the chain, with at most the given number of steps. -/
def findPrimitive : Nat → TypeId → Action (Option TypeId)
  | 0, _ => return none
  | count + 1, id => do
    match (← type? id).map DocumentType.kind with
    | some (.primitive _) => return some id
    | some (.simple simple) =>
      match simple.primitive with
      | some primitive => return some primitive
      | none =>
        match (← get).base? id with
        | none => return none
        | some base =>
          match ← findPrimitive count base with
          | none => return none
          | some primitive =>
            rememberPrimitive id primitive
            return some primitive
    | _ => return none

/-- The primitive that a type is built on. Every simple type on the way remembers
it. -/
def primitiveOf (id : TypeId) : Action (Option TypeId) := do
  findPrimitive ((← get).types.size + 1) id

/-- The kind of that primitive, which reads and writes the values of the type. -/
def codecOf (id : TypeId) : Action (Option PrimitiveKind) := do
  match ← primitiveOf id with
  | some primitive => return (← type? primitive).bind DocumentType.primitive?
  | none => return none

end Action
end DocumentTypes
