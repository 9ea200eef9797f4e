import DocumentTypes.Proofs.Entering
import DocumentTypes.Proofs.Observation

/-! # What lasts

The name, the base, the flags and the nature of a type never change, whatever is done to
the store that it is in. Fields may be declared, schemas added and lookups remembered;
what is left without these is the core of the type. -/

namespace DocumentTypes

/-! ## Cores -/

/-- A kind without fields, schemas and whatever is derived from them. What a simple type
is stays as a whole. -/
def TypeKind.core : TypeKind → TypeKind
  | .complex { space, unstructured, .. } => .complex { space, unstructured, fields := .empty }
  | .composite _ => .composite .empty
  | kind => kind

namespace DocumentType

def core (type : DocumentType) : DocumentType := { type with kind := type.kind.core }

def remembered? (type : DocumentType) : Option TypeId := type.simple?.bind SimpleType.primitive

variable {type other : DocumentType}

theorem space_core :
    type.core.complex?.map ComplexType.space = type.complex?.map ComplexType.space := by
  rcases type with ⟨name, base, flags, kind⟩
  cases kind <;> rfl

@[simp] theorem primitive?_core : type.core.primitive? = type.primitive? := by
  rcases type with ⟨name, base, flags, kind⟩
  cases kind <;> rfl

@[simp] theorem remembered?_core : type.core.remembered? = type.remembered? := by
  rcases type with ⟨name, base, flags, kind⟩
  cases kind <;> rfl

theorem core_asked (schema : String) (count : Nat) (type : DocumentType) :
    (type.asked schema count).core = type.core := by
  rcases type with ⟨name, base, flags, kind⟩
  cases kind with
  | composite composite =>
      unfold asked
      dsimp only
      split <;> rfl
  | primitive | simple | complex | list => rfl

end DocumentType

namespace Blueprint

theorem remembered?_built (blueprint : Blueprint) (store : Store) :
    (blueprint.built store).remembered? = none := by
  rcases blueprint with ⟨name, base, flags, body⟩
  cases body <;> rfl

end Blueprint

namespace Store

/-- The primitive that the type with this id has found. -/
def remembered? (store : Store) (id : TypeId) : Option TypeId :=
  (store.type? id).bind DocumentType.remembered?

def primitiveAt? (store : Store) (id : TypeId) : Option PrimitiveKind :=
  (store.type? id).bind DocumentType.primitive?

/-- All types are still there with their cores, and those that were added have not looked
for their primitives. -/
structure Lasting (before after : Store) : Prop where
  old : ∀ id type, before.type? id = some type →
    ∃ later, after.type? id = some later ∧ later.core = type.core
  new : ∀ id type, after.type? id = some type → before.type? id = none →
    type.remembered? = none

namespace Lasting

variable {before middle after store : Store}

theorem refl (store : Store) : Lasting store store where
  old _ type found := ⟨type, found, rfl⟩
  new _ _ found absent := by
    rw [found] at absent
    cases absent

theorem trans (first : Lasting before middle) (second : Lasting middle after) :
    Lasting before after where
  old id type found := by
    rcases first.old id type found with ⟨between, betweenFound, betweenCore⟩
    rcases second.old id between betweenFound with ⟨later, laterFound, laterCore⟩
    exact ⟨later, laterFound, laterCore.trans betweenCore⟩
  new id type found absent := by
    cases between : middle.type? id with
    | none => exact second.new id type found between
    | some early =>
        rcases second.old id early between with ⟨later, laterFound, core⟩
        cases found.symm.trans laterFound
        rw [← DocumentType.remembered?_core, core, DocumentType.remembered?_core]
        exact first.new id early between absent

theorem of_types (same : after.types = before.types) : Lasting before after := by
  have types : ∀ id, after.type? id = before.type? id := fun id => by
    rw [type?, type?, same]
  constructor
  · intro id type found
    exact ⟨type, (types id).trans found, rfl⟩
  · intro id type found absent
    rw [types, absent] at found
    cases found

theorem setKind {id : TypeId} {type : DocumentType} {kind : TypeKind}
    (found : store.type? id = some type) (same : kind.core = type.kind.core) :
    Lasting store (store.setKind id kind) where
  old other present presentFound := by
    rw [type?_setKind]
    by_cases equal : other = id
    · subst equal
      cases found.symm.trans presentFound
      refine ⟨{ type with kind }, by rw [if_pos rfl, found]; rfl, ?_⟩
      rw [DocumentType.core, DocumentType.core, same]
    · exact ⟨present, by rw [if_neg equal]; exact presentFound, rfl⟩
  new other present presentFound absent := by
    rw [type?_setKind] at presentFound
    by_cases equal : other = id
    · rw [equal, found] at absent
      cases absent
    · rw [if_neg equal, absent] at presentFound
      cases presentFound

theorem built (store : Store) (blueprint : Blueprint) :
    Lasting store (store.push (blueprint.built store)) where
  old id type found := ⟨type, by rw [type?_push, if_neg (ne_nextId found)]; exact found, rfl⟩
  new id type found absent := by
    rw [type?_push] at found
    by_cases last : id = store.nextId
    · rw [if_pos last] at found
      cases found
      exact blueprint.remembered?_built store
    · rw [if_neg last, absent] at found
      cases found

theorem asked {schema : String} {count : TypeId → Nat}
    (asked : ∀ id, after.type? id = (before.type? id).map (DocumentType.asked schema (count id))) :
    Lasting before after where
  old id type found := ⟨type.asked schema (count id), by rw [asked, found]; rfl,
    DocumentType.core_asked schema (count id) type⟩
  new id type found absent := by
    rw [asked, absent] at found
    cases found

/-! ## What can be told from the core -/

theorem type? (lasting : Lasting before after) {id : TypeId} {type : DocumentType}
    (found : before.type? id = some type) :
    ∃ later, after.type? id = some later ∧ later.name = type.name := by
  rcases lasting.old id type found with ⟨later, laterFound, core⟩
  have names : later.core.name = type.core.name := congrArg DocumentType.name core
  exact ⟨later, laterFound, names⟩

theorem complexAt? (lasting : Lasting before after) {id : TypeId} {complex : ComplexType}
    (found : before.complexAt? id = some complex) :
    ∃ later, after.complexAt? id = some later ∧ later.space = complex.space := by
  rcases Option.bind_eq_some_iff.mp found with ⟨type, typeFound, isComplex⟩
  rcases lasting.old id type typeFound with ⟨later, laterFound, core⟩
  have spaces : later.complex?.map ComplexType.space = some complex.space := by
    rw [← DocumentType.space_core, core, DocumentType.space_core, isComplex, Option.map_some]
  rcases Option.map_eq_some_iff.mp spaces with ⟨laterComplex, laterIsComplex, space⟩
  refine ⟨laterComplex, ?_, space⟩
  rw [Store.complexAt?, laterFound]
  exact laterIsComplex

theorem qualifierAt_eq (lasting : Lasting before after) {id : TypeId} {type : DocumentType}
    (found : before.type? id = some type) : after.qualifierAt id = before.qualifierAt id := by
  rcases lasting.old id type found with ⟨later, laterFound, core⟩
  have spaces := congrArg (fun type => type.complex?.map ComplexType.space) core
  simp only [DocumentType.space_core] at spaces
  unfold Store.qualifierAt Store.complexAt?
  rw [found, laterFound, Option.bind_some, Option.bind_some]
  cases early : type.complex? <;> cases late : later.complex? <;> simp_all

theorem qualifierAt (lasting : Lasting before after) {id : TypeId} {qualifier : String}
    (declared : before.qualifierAt id = qualifier) (given : qualifier ≠ "") :
    after.qualifierAt id = qualifier := by
  cases found : before.type? id with
  | some type => exact (lasting.qualifierAt_eq found).trans declared
  | none =>
      rw [Store.qualifierAt, Store.complexAt?, found] at declared
      exact absurd declared.symm given

theorem primitiveAt? (lasting : Lasting before after) {id : TypeId} {kind : PrimitiveKind}
    (found : before.primitiveAt? id = some kind) : after.primitiveAt? id = some kind := by
  rcases Option.bind_eq_some_iff.mp found with ⟨type, typeFound, isPrimitive⟩
  rcases lasting.old id type typeFound with ⟨later, laterFound, core⟩
  rw [Store.primitiveAt?, laterFound, Option.bind_some, ← DocumentType.primitive?_core, core,
    DocumentType.primitive?_core]
  exact isPrimitive

theorem remembered?_eq (lasting : Lasting before after) (id : TypeId) :
    after.remembered? id = before.remembered? id := by
  unfold Store.remembered?
  cases found : before.type? id with
  | some type =>
      rcases lasting.old id type found with ⟨later, laterFound, core⟩
      rw [laterFound, Option.bind_some, Option.bind_some, ← DocumentType.remembered?_core, core,
        DocumentType.remembered?_core]
  | none =>
      cases later : after.type? id with
      | none => rfl
      | some type => exact lasting.new id type later found

end Lasting

theorem Observed.lasting {before after : Store} (observed : Observed before after) :
    before.Lasting after := by
  induction observed with
  | refl store => exact .refl store
  | trans _ _ first second => exact first.trans second
  | noted | remembered => exact .of_types rfl
  | @looked store id complex found name =>
      rcases type_of_complexAt? found with ⟨type, typeFound, kind⟩
      rcases complex.lookUp_fst name with ⟨lookups, equal⟩
      refine .setKind typeFound ?_
      rw [kind, equal]
      rfl
  | merged found =>
      rcases type_of_compositeAt? found with ⟨type, typeFound, kind⟩
      refine .setKind typeFound ?_
      rw [kind]
      rfl

end Store
end DocumentTypes
