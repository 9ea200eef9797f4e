import DocumentTypes.Store.Basic

/-! # Kinds in a store

What a store holds under an id, and how that changes when the kind of one type is
replaced. -/

namespace DocumentTypes

namespace TypeKind

def complex? : TypeKind → Option ComplexType
  | .complex type => some type
  | _ => none

def composite? : TypeKind → Option CompositeType
  | .composite type => some type
  | _ => none

end TypeKind

namespace Store

def complexAt? (store : Store) (id : TypeId) : Option ComplexType :=
  (store.type? id).bind DocumentType.complex?

def compositeAt? (store : Store) (id : TypeId) : Option CompositeType :=
  (store.type? id).bind DocumentType.composite?

theorem complexAt?_eq (store : Store) (id : TypeId) :
    store.complexAt? id = ((store.type? id).map DocumentType.kind).bind TypeKind.complex? := by
  rcases found : store.type? id with _ | ⟨name, base, flags, kind⟩
  · simp [complexAt?, found]
  · cases kind <;> simp [complexAt?, found, DocumentType.complex?, TypeKind.complex?]

theorem compositeAt?_eq (store : Store) (id : TypeId) :
    store.compositeAt? id = ((store.type? id).map DocumentType.kind).bind TypeKind.composite? := by
  rcases found : store.type? id with _ | ⟨name, base, flags, kind⟩
  · simp [compositeAt?, found]
  · cases kind <;> simp [compositeAt?, found, DocumentType.composite?, TypeKind.composite?]

theorem complexAt?_of_kind {store : Store} {id : TypeId} {complex : ComplexType}
    (found : (store.type? id).map DocumentType.kind = some (.complex complex)) :
    store.complexAt? id = some complex := by
  rw [complexAt?_eq, found]
  rfl

theorem compositeAt?_of_kind {store : Store} {id : TypeId} {composite : CompositeType}
    (found : (store.type? id).map DocumentType.kind = some (.composite composite)) :
    store.compositeAt? id = some composite := by
  rw [compositeAt?_eq, found]
  rfl

theorem kind_of_complexAt? {store : Store} {id : TypeId} {complex : ComplexType}
    (found : store.complexAt? id = some complex) :
    (store.type? id).map DocumentType.kind = some (.complex complex) := by
  rw [complexAt?_eq] at found
  rcases Option.bind_eq_some_iff.mp found with ⟨kind, kindFound, isComplex⟩
  rw [kindFound]
  cases kind <;> cases isComplex
  rfl

theorem kind_of_compositeAt? {store : Store} {id : TypeId} {composite : CompositeType}
    (found : store.compositeAt? id = some composite) :
    (store.type? id).map DocumentType.kind = some (.composite composite) := by
  rw [compositeAt?_eq] at found
  rcases Option.bind_eq_some_iff.mp found with ⟨kind, kindFound, isComposite⟩
  rw [kindFound]
  cases kind <;> cases isComposite
  rfl

theorem type_of_complexAt? {store : Store} {id : TypeId} {complex : ComplexType}
    (found : store.complexAt? id = some complex) :
    ∃ type, store.type? id = some type ∧ type.kind = .complex complex :=
  Option.map_eq_some_iff.mp (kind_of_complexAt? found)

theorem type_of_compositeAt? {store : Store} {id : TypeId} {composite : CompositeType}
    (found : store.compositeAt? id = some composite) :
    ∃ type, store.type? id = some type ∧ type.kind = .composite composite :=
  Option.map_eq_some_iff.mp (kind_of_compositeAt? found)

theorem isSome_of_complexAt? {store : Store} {id : TypeId} {complex : ComplexType}
    (found : store.complexAt? id = some complex) : (store.type? id).isSome = true := by
  rcases type_of_complexAt? found with ⟨type, typeFound, -⟩
  exact Option.isSome_of_eq_some typeFound

theorem compositeAt?_of_complexAt? {store : Store} {id : TypeId} {complex : ComplexType}
    (found : store.complexAt? id = some complex) : store.compositeAt? id = none := by
  rw [compositeAt?_eq, kind_of_complexAt? found]
  rfl

theorem complexAt?_of_compositeAt? {store : Store} {id : TypeId} {composite : CompositeType}
    (found : store.compositeAt? id = some composite) : store.complexAt? id = none := by
  rw [complexAt?_eq, kind_of_compositeAt? found]
  rfl

theorem position_inj {id other : TypeId} : id.position = other.position ↔ id = other := by
  cases id
  cases other
  simp

theorem type?_isSome_iff {store : Store} {id : TypeId} :
    (store.type? id).isSome ↔ id.position < store.types.size := by
  simp [type?]

theorem position_lt {store : Store} {id : TypeId} {type : DocumentType}
    (found : store.type? id = some type) : id.position < store.types.size :=
  type?_isSome_iff.mp (Option.isSome_of_eq_some found)

theorem mem_types_iff {store : Store} {type : DocumentType} :
    type ∈ store.types ↔ ∃ id, store.type? id = some type := by
  rw [Array.mem_iff_getElem?]
  exact ⟨fun ⟨position, found⟩ => ⟨⟨position⟩, found⟩, fun ⟨id, found⟩ => ⟨id.position, found⟩⟩

def TypesExist (store : Store) : Prop :=
  ∀ name id, store.registry.types.get? name = some id → (store.type? id).isSome = true

theorem TypesExist.of_size {before after : Store} (exist : before.TypesExist)
    (types : after.registry.types = before.registry.types)
    (size : before.types.size ≤ after.types.size) : after.TypesExist := by
  intro name id found
  rw [types] at found
  have present := type?_isSome_iff.mp (exist name id found)
  apply type?_isSome_iff.mpr
  omega

theorem TypesExist.put {store : Store} (exist : store.TypesExist) {id : TypeId}
    (present : (store.type? id).isSome = true) {name : TypeName} {registry : Registry}
    (types : registry.types = store.registry.types.put name id) :
    ({ store with registry } : Store).TypesExist := by
  intro other registered found
  change registry.types.get? other = some registered at found
  rw [types] at found
  rcases Table.of_get?_put found with ⟨-, rfl⟩ | old
  · exact present
  · exact exist other registered old

/-! ## One kind replaced -/

variable {store : Store} {id other : TypeId} {kind : TypeKind}

@[simp] theorem registry_setKind : (store.setKind id kind).registry = store.registry := by
  unfold setKind
  split <;> rfl

@[simp] theorem registryId_setKind : (store.setKind id kind).registryId = store.registryId := by
  unfold setKind
  split <;> rfl

@[simp] theorem holdings_setKind : (store.setKind id kind).holdings = store.holdings := by
  unfold setKind
  split <;> rfl

@[simp] theorem size_setKind : (store.setKind id kind).types.size = store.types.size := by
  unfold setKind
  split <;> simp [setType]

theorem type?_setKind (store : Store) (id other : TypeId) (kind : TypeKind) :
    (store.setKind id kind).type? other =
      if other = id then (store.type? id).map fun type => { type with kind }
      else store.type? other := by
  unfold setKind
  cases found : store.type? id with
  | none =>
      by_cases same : other = id
      · rw [if_pos same, same]
        exact found
      · rw [if_neg same]
  | some type =>
      have bound := position_lt found
      by_cases same : other = id
      · subst same
        simp [setType, type?, bound]
      · have different : id.position ≠ other.position :=
          fun equal => same (position_inj.mp equal.symm)
        simp [setType, type?, same, different]

theorem setKind_self {type : DocumentType} (found : store.type? id = some type) :
    store.setKind id type.kind = store := by
  have stored : store.types[id.position]? = some type := found
  simp only [setKind, found, setType]
  congr 1
  apply Array.ext_getElem?
  intro position
  rw [Array.getElem?_setIfInBounds]
  split
  next same =>
    subst same
    split
    · exact stored.symm
    next outside => rw [Array.getElem?_eq_none (Nat.le_of_not_lt outside)]
  next => rfl

theorem setKind_composite_self {composite : CompositeType}
    (found : store.compositeAt? id = some composite) :
    store.setKind id (.composite composite) = store := by
  rcases type_of_compositeAt? found with ⟨type, typeFound, kind⟩
  rw [← kind]
  exact setKind_self typeFound

theorem complexAt?_setKind_complex {old complex : ComplexType}
    (found : store.complexAt? id = some old) (other : TypeId) :
    (store.setKind id (.complex complex)).complexAt? other =
      if other = id then some complex else store.complexAt? other := by
  rcases Option.bind_eq_some_iff.mp found with ⟨type, typeFound, -⟩
  unfold complexAt?
  rw [type?_setKind, typeFound]
  split <;> rfl

theorem compositeAt?_setKind_complex {old complex : ComplexType}
    (found : store.complexAt? id = some old) (other : TypeId) :
    (store.setKind id (.complex complex)).compositeAt? other = store.compositeAt? other := by
  rcases type_of_complexAt? found with ⟨type, typeFound, -⟩
  by_cases same : other = id
  · rw [same, compositeAt?_of_complexAt? found, compositeAt?, type?_setKind, if_pos rfl, typeFound]
    rfl
  · rw [compositeAt?, type?_setKind, if_neg same]
    rfl

theorem compositeAt?_setKind_composite {old composite : CompositeType}
    (found : store.compositeAt? id = some old) (other : TypeId) :
    (store.setKind id (.composite composite)).compositeAt? other =
      if other = id then some composite else store.compositeAt? other := by
  rcases Option.bind_eq_some_iff.mp found with ⟨type, typeFound, -⟩
  unfold compositeAt?
  rw [type?_setKind, typeFound]
  split <;> rfl

theorem complexAt?_setKind_composite {old composite : CompositeType}
    (found : store.compositeAt? id = some old) (other : TypeId) :
    (store.setKind id (.composite composite)).complexAt? other = store.complexAt? other := by
  rcases type_of_compositeAt? found with ⟨type, typeFound, -⟩
  by_cases same : other = id
  · rw [same, complexAt?_of_compositeAt? found, complexAt?, type?_setKind, if_pos rfl, typeFound]
    rfl
  · rw [complexAt?, type?_setKind, if_neg same]
    rfl

theorem setKind_setKind (store : Store) (id : TypeId) (first second : TypeKind) :
    (store.setKind id first).setKind id second = store.setKind id second := by
  cases found : store.type? id with
  | none =>
      have unchanged : store.setKind id first = store := by simp [setKind, found]
      rw [unchanged]
  | some type =>
      have foundAfter : (store.setKind id first).type? id = some { type with kind := first } := by
        rw [type?_setKind, if_pos rfl, found]
        rfl
      simp only [setKind, found, setType] at foundAfter ⊢
      simp [foundAfter]

theorem setKind_notices (store : Store) (id : TypeId) (kind : TypeKind)
    (notices : List Notice) : ({ store with notices } : Store).setKind id kind =
      { store.setKind id kind with notices } := by
  have same : ({ store with notices } : Store).type? id = store.type? id := rfl
  unfold setKind
  rw [same]
  cases store.type? id <;> rfl

theorem survivors_notices (store : Store) (notices : List Notice) (rounds : Nat)
    (candidates : List TypeId) : ({ store with notices } : Store).survivors rounds candidates =
      store.survivors rounds candidates := by
  induction rounds generalizing candidates with
  | zero => rfl
  | succ rounds induction =>
      rw [survivors, survivors, induction]
      rfl

theorem resolve_notices (store : Store) (notices : List Notice) (reference : TypeRef) :
    ({ store with notices } : Store).resolve reference = store.resolve reference := by
  cases reference with
  | null | named | schema | direct => rfl
  | owner type target =>
      unfold resolve isAlive
      rw [survivors_notices]
      rfl

/-! ## One type more -/

theorem type?_push (store : Store) (type : DocumentType) (id : TypeId) :
    (store.push type).type? id = if id = store.nextId then some type else store.type? id := by
  have last : id = store.nextId ↔ id.position = store.types.size := position_inj.symm
  simp [push, type?, Array.getElem?_push, last]

theorem type?_nextId (store : Store) : store.type? store.nextId = none := by
  simp [type?, nextId]

theorem ne_nextId {type : DocumentType} (found : store.type? id = some type) :
    id ≠ store.nextId := by
  intro equal
  rw [equal, type?_nextId] at found
  cases found

theorem complexAt?_push (type : DocumentType) (id : TypeId) :
    (store.push type).complexAt? id =
      if id = store.nextId then type.complex? else store.complexAt? id := by
  unfold complexAt?
  rw [type?_push]
  split <;> rfl

theorem compositeAt?_push (type : DocumentType) (id : TypeId) :
    (store.push type).compositeAt? id =
      if id = store.nextId then type.composite? else store.compositeAt? id := by
  unfold compositeAt?
  rw [type?_push]
  split <;> rfl

theorem complexAt?_push_of_some {type : DocumentType} {complex : ComplexType}
    (found : store.complexAt? id = some complex) :
    (store.push type).complexAt? id = some complex := by
  rcases type_of_complexAt? found with ⟨present, presentFound, -⟩
  rw [complexAt?_push, if_neg (ne_nextId presentFound)]
  exact found

theorem compositeAt?_push_of_some {type : DocumentType} {composite : CompositeType}
    (found : store.compositeAt? id = some composite) :
    (store.push type).compositeAt? id = some composite := by
  rcases type_of_compositeAt? found with ⟨present, presentFound, -⟩
  rw [compositeAt?_push, if_neg (ne_nextId presentFound)]
  exact found

theorem push_setKind (store : Store) (type : DocumentType) (kind : TypeKind) :
    (store.push type).setKind store.nextId kind = store.push { type with kind } := by
  have found : (store.push type).type? store.nextId = some type := by
    rw [type?_push, if_pos rfl]
  have last : (store.types.push type).setIfInBounds store.types.size { type with kind } =
      store.types.push { type with kind } := by
    apply Array.ext_getElem?
    intro position
    by_cases equal : store.types.size = position
    · subst equal
      simp
    · simp [Array.getElem?_push, equal, Ne.symm equal]
  simp only [setKind, found]
  simp [setType, push, nextId, last]

end Store

/-! ## Stripping

Two stores are compared by stripping both of what one does not care about. -/

namespace Store

/-- A store without notices and remembered top-level fields, and with all kinds
reduced. -/
def stripped (reduce : TypeKind → TypeKind) (store : Store) : Store :=
  { store with
    types := store.types.map fun type => { type with kind := reduce type.kind }
    registry := { store.registry with fieldLookups := .empty }
    notices := [] }

variable {reduce : TypeKind → TypeKind} {store : Store}

theorem type?_stripped (id : TypeId) :
    (store.stripped reduce).type? id =
      (store.type? id).map fun type => { type with kind := reduce type.kind } := by
  simp [stripped, type?]

theorem stripped_setKind (id : TypeId) (kind : TypeKind) :
    (store.setKind id kind).stripped reduce =
      (store.stripped reduce).setKind id (reduce kind) := by
  unfold setKind
  rw [type?_stripped]
  cases store.type? id with
  | none => rfl
  | some type => simp [stripped, setType]

theorem stripped_setKind_of_eq {id : TypeId} {kind : TypeKind} {type : DocumentType}
    (found : store.type? id = some type) (same : reduce kind = reduce type.kind) :
    (store.setKind id kind).stripped reduce = store.stripped reduce := by
  have strippedFound :
      (store.stripped reduce).type? id = some { type with kind := reduce type.kind } := by
    rw [type?_stripped, found]
    rfl
  rw [stripped_setKind, same]
  exact setKind_self strippedFound

end Store

end DocumentTypes
