import DocumentTypes.Store.Lookup

/-! # Building

Types are built from blueprints. A complex type begins with the fields that its
base has at that moment; later changes of either do not reach the other. -/

namespace DocumentTypes

/-- What is to be built beside a name, a base and flags. -/
inductive Blueprint.Body
  | primitive (kind : PrimitiveKind)
  | simple (constraints : List Constraint)
  | complex (space : Namespace) (unstructured : Option Bool) (fields : List FieldDeclaration)
  | composite (schemas : List TypeRef)
  | list (item : TypeRef) (itemName : Option String) (defaultText : Option String)
      (minOccurs maxOccurs : Int)

structure Blueprint where
  name : TypeName
  base : TypeRef := .null
  flags : UInt16 := 0
  body : Blueprint.Body

namespace Blueprint

def primitive (kind : PrimitiveKind) : Blueprint where
  name := ⟨primitiveSchema, kind.name⟩
  body := .primitive kind

def isComplete (blueprint : Blueprint) : Bool :=
  match blueprint.body with
  | .simple _ => !blueprint.base.isNull
  | _ => true

def itemField (id : TypeId) (name : TypeName) (item : TypeRef) (itemName : Option String)
    (minOccurs maxOccurs : Int) : Field where
  owner := id
  serial := 0
  ownerName := name
  name := .parse (itemName.getD arrayItemName) ""
  valueType := item
  defaultText := none
  flags := 0
  minOccurs
  maxOccurs

def inheritedFields (store : Store) (base : TypeRef) : Table QualifiedName Field :=
  match (store.resolve base).bind store.type? |>.bind DocumentType.complex? with
  | some complex => complex.fields
  | none => .empty

/-- The kind of a type before it declares or registers anything. -/
def initialKind (blueprint : Blueprint) (store : Store) : TypeKind :=
  match blueprint.body with
  | .primitive kind => .primitive kind
  | .simple constraints => .simple { constraints }
  | .complex space unstructured _ =>
    .complex { space, unstructured, fields := inheritedFields store blueprint.base }
  | .composite _ => .composite .empty
  | .list item itemName defaultText minOccurs maxOccurs =>
    .list {
      item := itemField store.nextId blueprint.name item itemName minOccurs maxOccurs
      isArray := itemName.isNone
      defaultText
      minOccurs
      maxOccurs }

end Blueprint

namespace Action

def declareAll (id : TypeId) (declarations : List FieldDeclaration) : Action Unit :=
  declarations.forM fun declaration => do
    let _ ← (declareField id declaration).run

def build (blueprint : Blueprint) : Action TypeId := do
  let store ← get
  set (store.push {
    name := blueprint.name
    base := blueprint.base
    flags := blueprint.flags
    kind := blueprint.initialKind store })
  match blueprint.body with
  | .complex _ _ fields => declareAll store.nextId fields
  | .composite schemas => schemas.forM (addSchema store.nextId)
  | _ => pure ()
  return store.nextId

end Action

def Attempt.build (blueprint : Blueprint) : Attempt TypeId :=
  if blueprint.isComplete then Action.build blueprint
  else throw (.supertypeRequired blueprint.name.schema blueprint.name.name)

end DocumentTypes
