import DocumentTypes.Proofs.Entering
import DocumentTypes.Proofs.Life
import DocumentTypes.Proofs.FieldCache

/-! # Firm types

What a type was laid down with is told apart from what it derives from other types and from
the requests to derive it anew. A type that is alive without anything that may be derived anew
is firm: it stays alive whatever is derived, or given up again. -/

namespace DocumentTypes

/-! ## What is laid down -/

/-- A kind without anything derived, and without requests to derive it anew. -/
def TypeKind.plain (kind : TypeKind) : TypeKind :=
  match kind.declared with
  | .composite type => .composite { type with requested := 0 }
  | kind => kind

namespace DocumentType

variable {type : DocumentType} {id : TypeId}

def plain (type : DocumentType) : DocumentType := { type with kind := type.kind.plain }

theorem plain_asked (schema : String) (count : Nat) (type : DocumentType) :
    (type.asked schema count).plain = type.plain := by
  rcases type with ⟨name, base, flags, kind⟩
  cases kind with
  | composite composite =>
      unfold asked
      dsimp only
      split <;> rfl
  | primitive | simple | complex | list => rfl

theorem complex?_plain (type : DocumentType) :
    type.plain.complex? = type.complex?.map fun complex => { complex with lookups := .empty } := by
  rcases type with ⟨name, base, flags, kind⟩
  cases kind <;> rfl

theorem composite?_plain (type : DocumentType) : type.plain.composite? =
    type.composite?.map fun composite => { composite with requested := 0, merged := .empty } := by
  rcases type with ⟨name, base, flags, kind⟩
  cases kind <;> rfl

theorem list?_plain (type : DocumentType) : type.plain.list? = type.list? := by
  rcases type with ⟨name, base, flags, kind⟩
  cases kind <;> rfl

theorem mem_held_of_plain (member : id ∈ type.plain.held) : id ∈ type.held := by
  rcases type with ⟨name, base, flags, kind⟩
  refine (List.mem_append.mp member).elim (List.mem_append_left _) fun inKind => ?_
  refine List.mem_append_right _ ?_
  cases kind with
  | primitive | complex | list => exact inKind
  | simple => cases inKind
  | composite composite =>
      rcases List.mem_append.mp inKind with inReferences | inSnapshot
      · exact List.mem_append_left _ inReferences
      · cases inSnapshot

end DocumentType

namespace Store

variable {left right before after store : Store} {id : TypeId}

def SamePlain (left right : Store) : Prop :=
  ∀ id, (right.type? id).map DocumentType.plain = (left.type? id).map DocumentType.plain

namespace SamePlain

theorem refl (store : Store) : store.SamePlain store := fun _ => rfl

theorem symm (same : left.SamePlain right) : right.SamePlain left := fun id => (same id).symm

theorem trans {middle : Store} (first : left.SamePlain middle) (second : middle.SamePlain right) :
    left.SamePlain right := fun id => (second id).trans (first id)

theorem of_sameDeclared (same : left.SameDeclared right) : left.SamePlain right := by
  intro id
  have equal := congrArg (Store.type? · id) same.eq
  simp only [type?_stripped] at equal
  have again := congrArg (Option.map DocumentType.plain) equal.symm
  have twice (type : DocumentType) : ({ type with kind := type.kind.declared }).plain =
      type.plain := by
    rcases type with ⟨name, base, flags, kind⟩
    cases kind <;> rfl
  simpa only [Option.map_map, Function.comp_def, twice] using again

theorem type? (same : left.SamePlain right) {type : DocumentType}
    (found : left.type? id = some type) :
    ∃ later, right.type? id = some later ∧ later.plain = type.plain := by
  have equal := same id
  rw [found] at equal
  exact Option.map_eq_some_iff.mp equal

theorem size_eq (same : left.SamePlain right) : right.types.size = left.types.size := by
  have inside (position : Nat) : position < right.types.size ↔ position < left.types.size := by
    have equal := congrArg Option.isSome (same ⟨position⟩)
    rw [Option.isSome_map, Option.isSome_map, Bool.eq_iff_iff, type?_isSome_iff,
      type?_isSome_iff] at equal
    exact equal
  exact Nat.le_antisymm (Nat.le_of_not_lt fun less => absurd ((inside _).mp less) (Nat.lt_irrefl _))
    (Nat.le_of_not_lt fun less => absurd ((inside _).mpr less) (Nat.lt_irrefl _))

theorem forgotten_eq (same : left.SamePlain right) (id : TypeId) :
    (right.complexAt? id).map (fun complex => { complex with lookups := .empty }) =
      (left.complexAt? id).map fun complex => { complex with lookups := .empty } := by
  have equal := congrArg (Option.bind · DocumentType.complex?) (same id)
  simpa only [Option.bind_map, Function.comp_def, DocumentType.complex?_plain, Store.complexAt?,
    Option.map_bind] using equal

theorem complexAt? (same : left.SamePlain right) {complex : ComplexType}
    (found : left.complexAt? id = some complex) :
    ∃ lookups, right.complexAt? id = some { complex with lookups } := by
  have equal := same.forgotten_eq id
  rw [found] at equal
  rcases Option.map_eq_some_iff.mp equal with ⟨other, otherFound, otherEqual⟩
  refine ⟨other.lookups, ?_⟩
  rw [otherFound]
  cases other
  cases complex
  simp_all

theorem fieldsAt_eq (same : left.SamePlain right) (id : TypeId) :
    right.fieldsAt id = left.fieldsAt id := by
  have equal := congrArg (Option.elim · [] fun complex => complex.fields.values)
    (same.forgotten_eq id)
  simpa only [Option.elim_map, Function.comp_def, fieldsAt] using equal

theorem compositeAt? (same : left.SamePlain right) {composite : CompositeType}
    (found : left.compositeAt? id = some composite) : ∃ requested merged,
      right.compositeAt? id = some { composite with requested, merged } := by
  rcases Option.bind_eq_some_iff.mp found with ⟨type, typeFound, isComposite⟩
  rcases same.type? typeFound with ⟨later, laterFound, plain⟩
  have kinds := congrArg DocumentType.composite? plain
  rw [DocumentType.composite?_plain, DocumentType.composite?_plain, isComposite] at kinds
  rcases Option.map_eq_some_iff.mp kinds with ⟨other, laterComposite, equal⟩
  refine ⟨other.requested, other.merged, ?_⟩
  rw [Store.compositeAt?, laterFound, Option.bind_some, laterComposite]
  cases other
  cases composite
  simp_all

theorem complexAt?_eq_none (same : left.SamePlain right) (absent : left.complexAt? id = none) :
    right.complexAt? id = none := by
  have equal := same.forgotten_eq id
  rw [absent] at equal
  exact Option.map_eq_none_iff.mp equal

theorem compositeAt?_eq_none (same : left.SamePlain right)
    (absent : left.compositeAt? id = none) : right.compositeAt? id = none := by
  refine Option.eq_none_iff_forall_not_mem.mpr fun composite found => ?_
  rcases same.symm.compositeAt? found with ⟨requested, merged, earlier⟩
  cases absent.symm.trans earlier

theorem find?_eq (same : left.SamePlain right) (id : TypeId) (name : String) :
    ((right.complexAt? id).bind fun complex => complex.find? name) =
      (left.complexAt? id).bind fun complex => complex.find? name := by
  cases found : left.complexAt? id with
  | none => rw [same.complexAt?_eq_none found]
  | some complex =>
      rcases same.complexAt? found with ⟨lookups, later⟩
      rw [later]
      rfl

theorem isSome_complexAt? (same : left.SamePlain right) (id : TypeId) :
    (right.complexAt? id).isSome = (left.complexAt? id).isSome := by
  simpa only [Option.isSome_map] using congrArg Option.isSome (same.forgotten_eq id)

theorem list?_eq (same : left.SamePlain right) (id : TypeId) :
    (right.type? id).bind DocumentType.list? = (left.type? id).bind DocumentType.list? := by
  have equal := congrArg (Option.bind · DocumentType.list?) (same id)
  simpa only [Option.bind_map, Function.comp_def, DocumentType.list?_plain] using equal

end SamePlain

/-! ## Life without what may be derived anew -/

/-- A composite that is up to date shows what it shows until it is asked to merge again, which
happens to facets alone. -/
def showsSettled (store : Store) (id : TypeId) : Bool :=
  !store.registry.facets.values.contains id &&
    (store.compositeAt? id).any CompositeType.isCurrent

/-- A store without anything derived, except what is settled. -/
def released (store : Store) : Store :=
  { store.bare with types := store.types.mapIdx fun position type =>
      if store.showsSettled ⟨position⟩ then type else type.plain }

theorem type?_released (store : Store) (id : TypeId) : store.released.type? id =
    (store.type? id).map fun type => if store.showsSettled id then type else type.plain := by
  simp [released, Store.type?]

def isFirm (store : Store) (id : TypeId) : Bool := store.released.isAlive id

/-- What is firm is alive in every store that was laid down the same, keeps what is settled and
holds as much. -/
theorem isAlive_of_isFirm (same : before.SamePlain after)
    (settled : ∀ id composite, before.compositeAt? id = some composite →
      id ∉ before.registry.facets.values → composite.isCurrent = true →
      after.compositeAt? id = some composite)
    (roots : ∀ id ∈ before.bare.roots, id ∈ after.roots) (firm : before.isFirm id = true) :
    after.isAlive id = true := by
  have roots : ∀ id ∈ before.released.roots, id ∈ after.roots := roots
  refine isAlive_mono ?_ roots (fun holder held holds => ?_) firm
  · rw [same.size_eq]
    simp [released]
  · rcases holdsType_iff.mp holds with ⟨kept, keptFound, member⟩
    rw [type?_released] at keptFound
    rcases Option.map_eq_some_iff.mp keptFound with ⟨type, found, rfl⟩
    rcases same.type? found with ⟨later, laterFound, equal⟩
    refine holdsType_iff.mpr ⟨later, laterFound, ?_⟩
    split at member
    next shows =>
      simp only [showsSettled, Bool.and_eq_true, Option.any_eq_true] at shows
      rcases shows with ⟨free, composite, compositeFound, current⟩
      have stays := settled holder composite compositeFound (by simpa using free) current
      have bases : later.base = type.base := (congrArg DocumentType.base equal :)
      have kinds := (kind_of_compositeAt? stays).trans (kind_of_compositeAt? compositeFound).symm
      rw [found, laterFound] at kinds
      rwa [DocumentType.held, bases, show later.kind = type.kind from Option.some.inj kinds]
    next => exact DocumentType.mem_held_of_plain (equal ▸ member)

end Store
end DocumentTypes
