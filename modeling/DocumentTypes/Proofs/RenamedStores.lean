import DocumentTypes.Proofs.Kinds
import DocumentTypes.Proofs.Renaming
import Mathlib.Data.List.Nodup
import Mathlib.Data.List.Perm.Basic
import Mathlib.Logic.Equiv.Basic

/-! # Renamed stores

Two stores that differ only by a permutation of ids. References mean the same in both, up
to the permutation; and so do those that mean something only as long as it is alive, for
the same types are alive. -/

namespace DocumentTypes

/-! ## Renamed types -/

section

variable (change : TypeId → TypeId)

@[simp] theorem TypeRef.held_rename (reference : TypeRef) :
    (reference.rename change).held = reference.held.map change := by
  cases reference <;> rfl

@[simp] theorem Field.held_rename (field : Field) :
    (field.rename change).held = field.held.map change :=
  TypeRef.held_rename change field.valueType

theorem DocumentType.held_rename (type : DocumentType) :
    (type.rename change).held = type.held.map change := by
  rcases type with ⟨name, base, flags, kind⟩
  unfold held
  rw [List.map_append]
  refine congr (congrArg _ (TypeRef.held_rename change base)) ?_
  cases kind with
  | primitive => rfl
  | simple type => exact Option.toList_map
  | list type => exact Field.held_rename change type.item
  | complex type =>
      change ((type.fields.map (Field.rename change)).values).flatMap Field.held = _
      rw [Table.values_map, flatMap_rename change (Field.held_rename change)]
  | composite type =>
      change ((type.references.map (TypeRef.rename change)).values).flatMap TypeRef.held ++
        (type.merged.schemas.map change ++
          (type.merged.fields.map (Field.rename change)).flatMap Field.held) = _
      rw [Table.values_map, flatMap_rename change (TypeRef.held_rename change),
        flatMap_rename change (Field.held_rename change), ← List.map_append,
        ← List.map_append]
      rfl

end

/-! ## Stores -/

/-- The second store is the first one with other ids. -/
structure Store.Renamed (change : Equiv.Perm TypeId) (left right : Store) : Prop where
  size_eq : right.types.size = left.types.size
  registryId_eq : right.registryId = left.registryId
  type?_eq : ∀ id, right.type? (change id) = (left.type? id).map (DocumentType.rename change)
  types : ∀ name, right.registry.types.get? name = (left.registry.types.get? name).map change
  schemas : ∀ name,
    right.registry.schemas.get? name = (left.registry.schemas.get? name).map change
  facets : ∀ name, right.registry.facets.get? name = (left.registry.facets.get? name).map change
  qualifiers : ∀ qualifier,
    right.registry.qualifiers.get? qualifier = left.registry.qualifiers.get? qualifier
  fieldLookups : ∀ name, right.registry.fieldLookups.get? name =
    (left.registry.fieldLookups.get? name).map (Field.rename change)
  held : ∀ id, change id ∈ right.holdings.held ↔ id ∈ left.holdings.held

namespace Store.Renamed

variable {change : Equiv.Perm TypeId} {left right : Store}

theorem mem_values {κ : Type} [DecidableEq κ] {first second : Table κ TypeId}
    (same : ∀ key, second.get? key = (first.get? key).map change) (id : TypeId) :
    change id ∈ second.values ↔ id ∈ first.values := by
  rw [Table.mem_values_iff, Table.mem_values_iff]
  refine exists_congr fun key => ?_
  rw [same, Option.map_eq_some_iff]
  constructor
  · rintro ⟨other, found, equal⟩
    rwa [← change.injective equal]
  · exact fun found => ⟨id, found, rfl⟩

theorem mem_map_change {id : TypeId} {ids : List TypeId} :
    change id ∈ ids.map change ↔ id ∈ ids :=
  List.mem_map_of_injective change.injective

theorem mem_held_lookups (renamed : left.Renamed change right) (id : TypeId) :
    change id ∈ right.registry.fieldLookups.values.flatMap Field.held ↔
      id ∈ left.registry.fieldLookups.values.flatMap Field.held := by
  rw [List.mem_flatMap, List.mem_flatMap]
  constructor
  · rintro ⟨field, member, holds⟩
    rcases Table.mem_values_iff.mp member with ⟨name, found⟩
    rw [renamed.fieldLookups, Option.map_eq_some_iff] at found
    rcases found with ⟨other, otherFound, rfl⟩
    rw [Field.held_rename, mem_map_change] at holds
    exact ⟨other, Table.mem_values_iff.mpr ⟨name, otherFound⟩, holds⟩
  · rintro ⟨field, member, holds⟩
    rcases Table.mem_values_iff.mp member with ⟨name, found⟩
    refine ⟨field.rename change, Table.mem_values_iff.mpr ⟨name, ?_⟩, ?_⟩
    · rw [renamed.fieldLookups, found]
      rfl
    · rwa [Field.held_rename, mem_map_change]

/-! ## Life -/

theorem mem_roots (renamed : left.Renamed change right) (id : TypeId) :
    change id ∈ right.roots ↔ id ∈ left.roots := by
  simp only [roots, Registry.held, List.mem_append, mem_values renamed.types,
    mem_values renamed.schemas, mem_values renamed.facets, renamed.mem_held_lookups,
    renamed.held]

theorem holdsType_eq (renamed : left.Renamed change right) (holder id : TypeId) :
    right.holdsType (change holder) (change id) = left.holdsType holder id := by
  unfold holdsType
  rw [renamed.type?_eq]
  cases left.type? holder with
  | none => rfl
  | some type =>
      rw [Option.map_some, Option.any_some, Option.any_some, DocumentType.held_rename,
        Bool.eq_iff_iff, List.contains_iff_mem, List.contains_iff_mem, mem_map_change]

theorem supported_perm (renamed : left.Renamed change right) {candidates others : List TypeId}
    (same : others.Perm (candidates.map change)) :
    (right.supported others).Perm ((left.supported candidates).map change) := by
  have kept : ∀ id, (right.roots.contains (change id) ||
      others.any fun holder => right.holdsType holder (change id)) =
      (left.roots.contains id || candidates.any fun holder => left.holdsType holder id) := by
    intro id
    have rooted : right.roots.contains (change id) = left.roots.contains id := by
      rw [Bool.eq_iff_iff, List.contains_iff_mem, List.contains_iff_mem, renamed.mem_roots]
    have holders : (others.any fun holder => right.holdsType holder (change id)) =
        candidates.any fun holder => left.holdsType holder id := by
      rw [same.any_eq, List.any_map]
      exact congrArg candidates.any (funext fun holder => renamed.holdsType_eq holder id)
    rw [rooted, holders]
  unfold supported
  refine (same.filter _).trans (.of_eq ?_)
  rw [List.filter_map]
  exact congrArg (List.map change) (List.filter_congr fun id _ => kept id)

theorem survivors_perm (renamed : left.Renamed change right) (rounds : Nat)
    {candidates others : List TypeId} (same : others.Perm (candidates.map change)) :
    (right.survivors rounds others).Perm ((left.survivors rounds candidates).map change) := by
  induction rounds generalizing candidates others with
  | zero => exact same
  | succ rounds induction =>
      have supported := renamed.supported_perm same
      have lengths := supported.length_eq
      rw [List.length_map] at lengths
      have allLengths := same.length_eq
      rw [List.length_map] at allLengths
      unfold survivors
      dsimp only
      rw [lengths, allLengths]
      split
      · exact same
      · exact induction supported

theorem mem_ids_iff {store : Store} {id : TypeId} :
    id ∈ store.ids ↔ (store.type? id).isSome = true := by
  rw [type?_isSome_iff, ids, List.mem_map]
  constructor
  · rintro ⟨position, member, rfl⟩
    exact List.mem_range.mp member
  · exact fun inside => ⟨id.position, List.mem_range.mpr inside, rfl⟩

theorem nodup_ids (store : Store) : store.ids.Nodup :=
  List.Nodup.map (fun _ _ same => congrArg TypeId.position same) List.nodup_range

theorem ids_perm (renamed : left.Renamed change right) :
    right.ids.Perm (left.ids.map change) := by
  refine (List.perm_ext_iff_of_nodup (nodup_ids right)
    (List.Nodup.map change.injective (nodup_ids left))).mpr fun id => ?_
  rcases change.surjective id with ⟨origin, rfl⟩
  rw [mem_map_change, mem_ids_iff, mem_ids_iff, renamed.type?_eq, Option.isSome_map]

theorem isAlive_eq (renamed : left.Renamed change right) (id : TypeId) :
    right.isAlive (change id) = left.isAlive id := by
  have same := renamed.survivors_perm right.types.size renamed.ids_perm
  unfold isAlive
  rw [Bool.eq_iff_iff, List.contains_iff_mem, List.contains_iff_mem, same.mem_iff,
    mem_map_change, renamed.size_eq]

theorem resolve_eq (renamed : left.Renamed change right) (reference : TypeRef) :
    right.resolve (reference.rename change) = (left.resolve reference).map change := by
  cases reference with
  | null => rfl
  | direct => rfl
  | named registry target =>
      change (if registry = right.registryId then right.registry.types.get? target else none) =
        (if registry = left.registryId then left.registry.types.get? target else none).map change
      rw [renamed.registryId_eq, renamed.types]
      split <;> rfl
  | schema registry name =>
      change (if registry = right.registryId then right.registry.schemas.get? name else none) =
        (if registry = left.registryId then left.registry.schemas.get? name else none).map change
      rw [renamed.registryId_eq, renamed.schemas]
      split <;> rfl
  | owner type target =>
      change (if right.isAlive (change type) then some (change type) else none) =
        (if left.isAlive type then some type else none).map change
      rw [renamed.isAlive_eq]
      split <;> rfl

theorem schemaByQualifier?_eq (renamed : left.Renamed change right) (qualifier : String) :
    right.registry.schemaByQualifier? qualifier =
      (left.registry.schemaByQualifier? qualifier).map change := by
  unfold Registry.schemaByQualifier?
  rw [renamed.qualifiers]
  cases left.registry.qualifiers.get? qualifier with
  | none => rfl
  | some name => exact renamed.schemas name

theorem schemaFor?_eq (renamed : left.Renamed change right) (qualifier : String) :
    right.registry.schemaFor? qualifier = (left.registry.schemaFor? qualifier).map change := by
  unfold Registry.schemaFor?
  rw [renamed.schemaByQualifier?_eq, renamed.schemas]
  cases left.registry.schemaByQualifier? qualifier <;> rfl

/-! ## Changes -/

theorem noted (renamed : left.Renamed change right) (notice : Notice) :
    (left.note notice).Renamed change (right.note notice) :=
  ⟨renamed.size_eq, renamed.registryId_eq, renamed.type?_eq, renamed.types, renamed.schemas,
    renamed.facets, renamed.qualifiers, renamed.fieldLookups, renamed.held⟩

theorem setKind (renamed : left.Renamed change right) (id : TypeId) (kind : TypeKind) :
    (left.setKind id kind).Renamed change (right.setKind (change id) (kind.rename change)) where
  size_eq := by rw [size_setKind, size_setKind, renamed.size_eq]
  registryId_eq := by rw [registryId_setKind, registryId_setKind, renamed.registryId_eq]
  type?_eq other := by
    rw [type?_setKind, type?_setKind]
    by_cases same : other = id
    · rw [if_pos same, if_pos (congrArg change same), renamed.type?_eq, Option.map_map,
        Option.map_map]
      rfl
    · rw [if_neg same, if_neg fun equal => same (change.injective equal), renamed.type?_eq]
  types := by rw [registry_setKind, registry_setKind]; exact renamed.types
  schemas := by rw [registry_setKind, registry_setKind]; exact renamed.schemas
  facets := by rw [registry_setKind, registry_setKind]; exact renamed.facets
  qualifiers := by rw [registry_setKind, registry_setKind]; exact renamed.qualifiers
  fieldLookups := by rw [registry_setKind, registry_setKind]; exact renamed.fieldLookups
  held := by rw [holdings_setKind, holdings_setKind]; exact renamed.held

theorem remembered (renamed : left.Renamed change right) (name : String) (field : Field) :
    (left.setRegistry { left.registry with
      fieldLookups := left.registry.fieldLookups.put name field }).Renamed change
    (right.setRegistry { right.registry with
      fieldLookups := right.registry.fieldLookups.put name (field.rename change) }) := by
  refine { renamed with fieldLookups := fun other => ?_ }
  change (right.registry.fieldLookups.put name (field.rename change)).get? other =
    ((left.registry.fieldLookups.put name field).get? other).map (Field.rename change)
  rw [Table.get?_put, Table.get?_put, renamed.fieldLookups]
  split <;> rfl

end Store.Renamed
end DocumentTypes
