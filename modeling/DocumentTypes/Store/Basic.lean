import DocumentTypes.Schema.Notice
import DocumentTypes.Schema.Registry

/-! # Stores

A store holds every type ever built, the current registry, and what its user keeps
of either. References are resolved in a store. -/

namespace DocumentTypes

/-- What a user keeps under names of their own. -/
structure Holdings where
  types : Table String TypeId
  fields : Table String Field
  references : Table String TypeRef
  snapshots : Table String Snapshot

namespace Holdings

def empty : Holdings := ⟨.empty, .empty, .empty, .empty⟩

def held (holdings : Holdings) : List TypeId :=
  holdings.types.values ++ holdings.fields.values.flatMap Field.held ++
    holdings.references.values.flatMap TypeRef.held ++
    holdings.snapshots.values.flatMap Snapshot.held

end Holdings

structure Store where
  types : Array DocumentType
  registry : Registry
  registryId : RegistryId
  holdings : Holdings
  /-- Notices since they were last taken, the newest first. -/
  notices : List Notice

abbrev Action := StateM Store

/-- What may fail. The store keeps what had been done to it by then. -/
abbrev Attempt := ExceptT Failure Action

namespace Store

def type? (store : Store) (id : TypeId) : Option DocumentType := store.types[id.position]?

/-! ## Life

A type lives as long as something holds it: the registry, the user, or a type that
is alive. Types that hold each other in a circle stay alive. -/

def ids (store : Store) : List TypeId := (List.range store.types.size).map TypeId.mk

def roots (store : Store) : List TypeId := store.registry.held ++ store.holdings.held

def holdsType (store : Store) (holder held : TypeId) : Bool :=
  (store.type? holder).any fun type => type.held.contains held

/-- The candidates that are held by the outside or by one of the candidates. -/
def supported (store : Store) (candidates : List TypeId) : List TypeId :=
  candidates.filter fun id =>
    store.roots.contains id || candidates.any fun holder => store.holdsType holder id

/-- What remains of the candidates when unsupported ones are dropped again and
again. -/
def survivors (store : Store) : Nat → List TypeId → List TypeId
  | 0, candidates => candidates
  | rounds + 1, candidates =>
    let supported := store.supported candidates
    if supported.length = candidates.length then candidates
    else survivors store rounds supported

def isAlive (store : Store) (id : TypeId) : Bool :=
  (store.survivors store.types.size store.ids).contains id

/-! ## Resolution -/

/-- The type that a reference means at this moment. References into a registry that
has been dropped mean nothing. -/
def resolve (store : Store) : TypeRef → Option TypeId
  | .null => none
  | .named registry target =>
    if registry = store.registryId then store.registry.types.get? target else none
  | .schema registry name =>
    if registry = store.registryId then store.registry.schemas.get? name else none
  | .direct type _ => some type
  | .owner type _ => if store.isAlive type then some type else none

def require (store : Store) (reference : TypeRef) : Except Failure TypeId :=
  match store.resolve reference with
  | some type => .ok type
  | none =>
    let target := reference.target?.getD ⟨"", ""⟩
    .error (.unknownType target.schema target.name)

/-! ## Changes -/

def setType (store : Store) (id : TypeId) (type : DocumentType) : Store :=
  { store with types := store.types.setIfInBounds id.position type }

def setKind (store : Store) (id : TypeId) (kind : TypeKind) : Store :=
  match store.type? id with
  | some type => store.setType id { type with kind }
  | none => store

def push (store : Store) (type : DocumentType) : Store :=
  { store with types := store.types.push type }

def nextId (store : Store) : TypeId := ⟨store.types.size⟩

def note (store : Store) (notice : Notice) : Store :=
  { store with notices := notice :: store.notices }

def stalls (store : Store) : Nat := store.notices.count .endless

end Store

/-! ## Actions -/

namespace Action

def type? (id : TypeId) : Action (Option DocumentType) := return (← get).type? id

def resolve (reference : TypeRef) : Action (Option TypeId) := return (← get).resolve reference

def note (notice : Notice) : Action Unit := modify fun store => store.note notice

def takeNotices : Action (List Notice) :=
  modifyGet fun store => (store.notices.reverse, { store with notices := [] })

/-- What an action answers and leaves. One that finds something that never ends answers
nothing. -/
def outcome? {α : Type} (action : Action α) (store : Store) : Option (α × Store) :=
  let outcome := action.run store
  if outcome.2.stalls = store.stalls then some outcome else none

end Action
end DocumentTypes
