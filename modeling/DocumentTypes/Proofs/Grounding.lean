import DocumentTypes.Proofs.History
import DocumentTypes.Proofs.LoadOutcome
import DocumentTypes.Proofs.Mentions
import DocumentTypes.Proofs.RenamedLooks
import Mathlib.Data.Finset.Range
import Mathlib.Data.Fintype.EquivFin

/-! # Grounded stores

Ids are given out by building only, so nobody can mention a type that is not there. A store
in which this holds is one that no renaming of absent ids changes, and every operation
leaves it like that. -/

namespace DocumentTypes

/-- Every id that is mentioned anywhere is that of a type that is there. -/
structure Store.Grounded (store : Store) : Prop where
  built : ∀ type ∈ store.types, ∀ id ∈ type.mentions, id.position < store.types.size
  types : ∀ id ∈ store.registry.types.values, id.position < store.types.size
  schemas : ∀ id ∈ store.registry.schemas.values, id.position < store.types.size
  facets : ∀ id ∈ store.registry.facets.values, id.position < store.types.size
  remembered : ∀ id ∈ store.registry.fieldLookups.values.flatMap Field.mentions,
    id.position < store.types.size
  held : ∀ id ∈ store.holdings.held, id.position < store.types.size

namespace Store.Grounded

variable {store : Store}

theorem schemasExist (grounded : store.Grounded) : store.SchemasExist := fun name id found =>
  type?_isSome_iff.mpr (grounded.schemas id (Table.mem_values_iff.mpr ⟨name, found⟩))

theorem mentioned (grounded : store.Grounded) {id other : TypeId} {type : DocumentType}
    (found : store.type? id = some type) (mentions : other ∈ type.mentions) :
    other.position < store.types.size :=
  grounded.built type (mem_types_iff.mpr ⟨id, found⟩) other mentions

end Store.Grounded

/-! ## Renaming of absent ids -/

/-- Ids that stay among themselves whatever becomes of the absent ones are there. An absent
one could be renamed to any other. -/
theorem TypeId.position_lt_of_closed {ids : List TypeId} {size : Nat}
    (closed : ∀ change : Equiv.Perm TypeId, (∀ id : TypeId, id.position < size → change id = id) →
      ∀ id ∈ ids, change id ∈ ids) : ∀ id ∈ ids, id.position < size := by
  intro id member
  by_contra outside
  rcases Infinite.exists_notMem_finset ((ids.map position).toFinset ∪ Finset.range size) with
    ⟨position, free⟩
  rw [Finset.mem_union, List.mem_toFinset, Finset.mem_range, not_or] at free
  have moved := closed (Equiv.swap id ⟨position⟩) (fun other inside => by
    refine Equiv.swap_apply_of_ne_of_ne ?_ ?_
    · rintro rfl
      exact outside inside
    · rintro rfl
      exact free.2 inside) id member
  rw [Equiv.swap_apply_left] at moved
  exact free.1 (List.mem_map_of_mem moved)

namespace Store

variable {store : Store}

theorem get?_eq_map_of_fixed {κ : Type} [DecidableEq κ] {α : Type} {table : Table κ α}
    {change : α → α} (fixed : ∀ value ∈ table.values, change value = value) (key : κ) :
    table.get? key = (table.get? key).map change := by
  rw [← Table.get?_map, Table.map_eq_self fixed]

theorem Grounded.renamed (grounded : store.Grounded) {change : Equiv.Perm TypeId}
    (fixed : ∀ id : TypeId, id.position < store.types.size → change id = id) :
    store.Renamed change store := by
  refine {
    size_eq := rfl
    registryId_eq := rfl
    type?_eq := fun id => ?_
    types := get?_eq_map_of_fixed fun id member => fixed id (grounded.types id member)
    schemas := get?_eq_map_of_fixed fun id member => fixed id (grounded.schemas id member)
    facets := get?_eq_map_of_fixed fun id member => fixed id (grounded.facets id member)
    qualifiers := fun _ => rfl
    fieldLookups := get?_eq_map_of_fixed (Field.map_rename_eq_self fun id member =>
      fixed id (grounded.remembered id member))
    held := fun id => ⟨fun member => ?_, fun member => ?_⟩ }
  · cases found : store.type? id with
    | none =>
        have absent : ¬(store.type? (change id)).isSome := by
          intro present
          have same := change.injective (fixed (change id) (type?_isSome_iff.mp present))
          rw [same, found] at present
          cases present
        rwa [Option.not_isSome_iff_eq_none] at absent
    | some type =>
        rw [fixed id (position_lt found), found, Option.map_some,
          DocumentType.rename_eq_self fun other mentioned =>
            fixed other (grounded.mentioned found mentioned)]
  · have same := change.injective (fixed (change id) (grounded.held _ member))
    exact same ▸ member
  · rwa [fixed id (grounded.held id member)]

theorem Grounded.of_renamed (unchanged : ∀ change : Equiv.Perm TypeId,
      (∀ id : TypeId, id.position < store.types.size → change id = id) →
        store.Renamed change store) : store.Grounded where
  built type member := by
    rcases mem_types_iff.mp member with ⟨id, found⟩
    refine TypeId.position_lt_of_closed fun change fixed other mentioned => ?_
    have same := (unchanged change fixed).type?_eq id
    rw [fixed id (position_lt found), found, Option.map_some] at same
    rw [Option.some.inj same, DocumentType.mentions_rename]
    exact List.mem_map_of_mem mentioned
  types := TypeId.position_lt_of_closed fun change fixed id member =>
    (Renamed.mem_values (unchanged change fixed).types id).mpr member
  schemas := TypeId.position_lt_of_closed fun change fixed id member =>
    (Renamed.mem_values (unchanged change fixed).schemas id).mpr member
  facets := TypeId.position_lt_of_closed fun change fixed id member =>
    (Renamed.mem_values (unchanged change fixed).facets id).mpr member
  remembered := by
    refine TypeId.position_lt_of_closed fun change fixed id member => ?_
    rcases List.mem_flatMap.mp member with ⟨field, present, mentioned⟩
    rcases Table.mem_values_iff.mp present with ⟨name, found⟩
    have same := (unchanged change fixed).fieldLookups name
    rw [found, Option.map_some] at same
    refine List.mem_flatMap.mpr ⟨field, present, ?_⟩
    rw [Option.some.inj same, Field.mentions_rename]
    exact List.mem_map_of_mem mentioned
  held := TypeId.position_lt_of_closed fun change fixed id member =>
    ((unchanged change fixed).held id).mpr member

/-! ## Looking -/

theorem Observed.size_eq {before after : Store} (observed : before.Observed after) :
    after.types.size = before.types.size := by
  have sizes := congrArg (fun store : Store => store.types.size) observed.sameDeclared.eq
  simpa [stripped] using sizes.symm

/-- To look at a grounded store leaves it grounded: what looking does commutes with the
renamings that do not change the store. -/
theorem Grounded.looked (grounded : store.Grounded) {α : Type} {action : Action α}
    {convert : Equiv.Perm TypeId → α → α} (observes : Action.Observes action)
    (carries : ∀ change : Equiv.Perm TypeId,
      (∀ id : TypeId, id.position < store.types.size → change id = id) →
        Action.Carries change (convert change) action action) :
    Grounded (action.run store).2 := by
  refine .of_renamed fun change fixed => ?_
  rw [(observes store).size_eq] at fixed
  exact (carries change fixed store store (grounded.renamed fixed)).2

theorem Grounded.lookedAt (grounded : store.Grounded) {α : Type} (action : TypeId → Action α)
    {convert : Equiv.Perm TypeId → α → α} {id : TypeId}
    (present : id.position < store.types.size) (observes : Action.Observes (action id))
    (carries : ∀ change : Equiv.Perm TypeId,
      Action.Carries change (convert change) (action id) (action (change id))) :
    Grounded ((action id).run store).2 := by
  have same (change : Equiv.Perm TypeId)
      (fixed : ∀ other : TypeId, other.position < store.types.size → change other = other) :
      Action.Carries change (convert change) (action id) (action id) := by
    have moved := carries change
    rwa [fixed id present] at moved
  exact grounded.looked observes same

/-! ## Changes -/

theorem Grounded.notices (grounded : store.Grounded) (notices : List Notice) :
    Grounded { store with notices } :=
  ⟨grounded.built, grounded.types, grounded.schemas, grounded.facets, grounded.remembered,
    grounded.held⟩

theorem Grounded.push (grounded : store.Grounded) {type : DocumentType}
    (mentions : ∀ id ∈ type.mentions, id.position ≤ store.types.size) :
    (store.push type).Grounded := by
  have size : (store.push type).types.size = store.types.size + 1 := Array.size_push ..
  have still : ∀ {ids : List TypeId}, (∀ id ∈ ids, id.position < store.types.size) →
      ∀ id ∈ ids, id.position < (store.push type).types.size := by
    intro ids inside id member
    rw [size]
    exact Nat.lt_succ_of_lt (inside id member)
  refine ⟨fun other member => ?_, still grounded.types, still grounded.schemas,
    still grounded.facets, still grounded.remembered, still grounded.held⟩
  rcases Array.mem_push.mp member with old | rfl
  · exact still (grounded.built other old)
  · intro id mentioned
    rw [size]
    exact Nat.lt_succ_of_le (mentions id mentioned)

theorem Grounded.setKind (grounded : store.Grounded) {kind : TypeKind}
    (mentions : ∀ other ∈ kind.mentions, other.position < store.types.size) (id : TypeId) :
    (store.setKind id kind).Grounded := by
  refine ⟨fun type member other mentioned => ?_, ?_, ?_, ?_, ?_, ?_⟩
  all_goals simp only [size_setKind, registry_setKind, holdings_setKind]
  · rcases mem_types_iff.mp member with ⟨place, found⟩
    rw [type?_setKind] at found
    split at found
    · rcases Option.map_eq_some_iff.mp found with ⟨old, oldFound, rfl⟩
      rcases List.mem_append.mp mentioned with base | changed
      · exact grounded.mentioned oldFound (List.mem_append_left _ base)
      · exact mentions other changed
    · exact grounded.mentioned found mentioned
  · exact grounded.types
  · exact grounded.schemas
  · exact grounded.facets
  · exact grounded.remembered
  · exact grounded.held

theorem inside_put {κ : Type} [DecidableEq κ] {table : Table κ TypeId}
    (inside : ∀ id ∈ table.values, id.position < store.types.size) {id : TypeId}
    (present : id.position < store.types.size) (key : κ) :
    ∀ other ∈ (table.put key id).values, other.position < store.types.size := by
  intro other member
  rcases Table.mem_values_put member with rfl | old
  · exact present
  · exact inside other old

end Store

/-! ## Building -/

theorem ComplexType.of_mentions_declareAll {id other : TypeId} {name : TypeName}
    {declarations : List FieldDeclaration} {complex : ComplexType}
    (mentioned : other ∈ (complex.declareAll id name declarations).mentions) :
    other = id ∨ (∃ declaration ∈ declarations, other ∈ declaration.valueType.mentions) ∨
      other ∈ complex.mentions := by
  induction declarations generalizing complex with
  | nil => exact .inr (.inr mentioned)
  | cons declaration rest induction =>
      rcases induction mentioned with owner | ⟨later, member, here⟩ | declared
      · exact .inl owner
      · exact .inr (.inl ⟨later, List.mem_cons_of_mem _ member, here⟩)
      · rcases List.mem_append.mp declared with fields | lookups
        · rcases List.mem_flatMap.mp fields with ⟨field, member, here⟩
          rcases Table.mem_values_put member with rfl | old
          · rcases List.mem_cons.mp here with owner | valueType
            · exact .inl owner
            · exact .inr (.inl ⟨declaration, List.mem_cons_self, valueType⟩)
          · exact .inr (.inr (List.mem_append_left _ (List.mem_flatMap.mpr ⟨field, old, here⟩)))
        · cases lookups

theorem CompositeType.of_mentions_addSchema {id : TypeId} {name : String} {reference : TypeRef}
    {composite : CompositeType} (mentioned : id ∈ (composite.addSchema name reference).mentions) :
    id ∈ reference.mentions ∨ id ∈ composite.mentions := by
  rcases List.mem_append.mp mentioned with references | merged
  · rcases List.mem_flatMap.mp references with ⟨other, member, here⟩
    rcases Table.mem_values_put member with rfl | old
    · exact .inl here
    · exact .inr (List.mem_append_left _ (List.mem_flatMap.mpr ⟨other, old, here⟩))
  · exact .inr (List.mem_append_right _ merged)

theorem CompositeType.of_mentions_addAll {id : TypeId} {references : List TypeRef}
    {composite : CompositeType} (mentioned : id ∈ (composite.addAll references).mentions) :
    id ∈ references.flatMap TypeRef.mentions ∨ id ∈ composite.mentions := by
  rcases List.mem_append.mp mentioned with inReferences | merged
  · rcases List.mem_flatMap.mp inReferences with ⟨reference, member, here⟩
    rcases mem_references_addAll member with given | old
    · exact .inl (List.mem_flatMap.mpr ⟨reference, given, here⟩)
    · exact .inr (List.mem_append_left _ (List.mem_flatMap.mpr ⟨reference, old, here⟩))
  · rw [merged_addAll] at merged
    exact .inr (List.mem_append_right _ merged)

namespace Blueprint

def Body.mentions : Body → List TypeId
  | .primitive _ | .simple _ => []
  | .complex _ _ fields => fields.flatMap fun declaration => declaration.valueType.mentions
  | .composite schemas => schemas.flatMap TypeRef.mentions
  | .list item .. => item.mentions

def mentions (blueprint : Blueprint) : List TypeId :=
  blueprint.base.mentions ++ blueprint.body.mentions

theorem mentions_built {store : Store} (grounded : store.Grounded) {blueprint : Blueprint}
    (inside : ∀ id ∈ blueprint.mentions, id.position < store.types.size) :
    ∀ id ∈ (blueprint.built store).mentions, id.position ≤ store.types.size := by
  intro id mentioned
  rcases blueprint with ⟨name, base, flags, body⟩
  rcases List.mem_append.mp mentioned with atBase | atKind
  · exact Nat.le_of_lt (inside id (List.mem_append_left _ atBase))
  have atBody : ∀ other ∈ body.mentions, other.position < store.types.size :=
    fun other member => inside other (List.mem_append_right _ member)
  cases body with
  | primitive | simple => cases atKind
  | list item =>
      rcases List.mem_cons.mp atKind with rfl | valueType
      · exact Nat.le_refl _
      · exact Nat.le_of_lt (atBody id valueType)
  | composite schemas =>
      rcases CompositeType.of_mentions_addAll atKind with here | empty
      · exact Nat.le_of_lt (atBody id here)
      · cases empty
  | complex space unstructured fields =>
      rcases ComplexType.of_mentions_declareAll atKind with rfl | ⟨declaration, member, here⟩ |
        inherited
      · exact Nat.le_refl _
      · exact Nat.le_of_lt (atBody id (List.mem_flatMap.mpr ⟨declaration, member, here⟩))
      · rcases List.mem_append.mp inherited with fields | lookups
        · dsimp only at fields
          unfold inheritedFields at fields
          split at fields
          next complex found =>
            rcases Option.bind_eq_some_iff.mp found with ⟨type, typeFound, isComplex⟩
            rcases Option.bind_eq_some_iff.mp typeFound with ⟨baseId, -, baseFound⟩
            refine Nat.le_of_lt (grounded.mentioned baseFound ?_)
            rcases type with ⟨_, _, _, kind⟩
            cases kind <;> cases isComplex
            exact List.mem_append_right _ (List.mem_append_left _ fields)
          next => cases fields
        · cases lookups

theorem Refers.mentions_eq {admitted : TypeRef → Prop} {blueprint : Blueprint}
    (refers : blueprint.Refers admitted)
    (plain : ∀ reference, admitted reference → reference.mentions = []) :
    blueprint.mentions = [] := by
  rcases blueprint with ⟨name, base, flags, body⟩
  cases body with
  | primitive | composite => cases refers
  | simple => exact List.append_eq_nil_iff.mpr ⟨plain _ refers.2, rfl⟩
  | list =>
      rcases refers with ⟨rfl, admits⟩
      exact plain _ admits
  | complex =>
      rcases refers with ⟨rfl, admits⟩
      exact List.flatMap_eq_nil_iff.mpr fun declaration member => plain _ (admits _ member)

theorem mentions_facet (registryId : RegistryId) (name : String) (schemas : List String) :
    (facet registryId name schemas).mentions = [] := by
  refine List.flatMap_eq_nil_iff.mpr fun reference member => ?_
  rcases List.mem_map.mp member with ⟨schema, -, rfl⟩
  rfl

end Blueprint

theorem Drafting.AimsAt.mentions_eq {registry : Registry} {registryId : RegistryId}
    {names : List TypeName} {reference : TypeRef}
    (aims : AimsAt registry registryId names reference) : reference.mentions = [] := by
  rcases aims with ⟨target, rfl, -⟩
  rfl

/-! ## Operations, one by one -/

theorem DocumentType.mentions_asked (schema : String) (count : Nat) (type : DocumentType) :
    (type.asked schema count).mentions = type.mentions := by
  rcases type with ⟨name, base, flags, kind⟩
  cases kind with
  | composite =>
      unfold asked
      dsimp only
      split <;> rfl
  | primitive | simple | complex | list => rfl

namespace Action

open Store (Grounded)

variable {store : Store} {id : TypeId}

theorem grounded_build (grounded : store.Grounded) {blueprint : Blueprint}
    (inside : ∀ id ∈ blueprint.mentions, id.position < store.types.size) :
    Grounded ((build blueprint).run store).2 := by
  rcases run_build blueprint store with ⟨notices, run⟩
  rw [run]
  exact (grounded.push (Blueprint.mentions_built grounded inside)).notices notices

theorem grounded_attemptBuild (grounded : store.Grounded) {blueprint : Blueprint}
    (inside : ∀ id ∈ blueprint.mentions, id.position < store.types.size) :
    Grounded ((Attempt.build blueprint).run.run store).2 := by
  unfold Attempt.build
  split
  · exact grounded_build grounded inside
  · exact grounded

theorem grounded_registerType (id : TypeId) : Preserves Grounded (registerType id) := by
  intro store grounded
  cases found : store.type? id with
  | none =>
      unfold registerType
      rw [run_bind, run_type?, found]
      exact grounded
  | some type =>
      rcases run_registerType found with ⟨notices, run⟩
      rw [run]
      exact ⟨grounded.built, Store.inside_put grounded.types (Store.position_lt found) type.name,
        grounded.schemas, grounded.facets, grounded.remembered, grounded.held⟩

theorem grounded_invalidate (id : TypeId) : Preserves Grounded (invalidate id) := by
  intro store grounded
  unfold invalidate
  rw [run_bind, run_type?]
  cases found : (store.type? id).bind DocumentType.composite? with
  | none => exact grounded
  | some composite =>
      rcases Store.type_of_compositeAt? found with ⟨type, typeFound, kind⟩
      refine grounded.setKind (fun other mentioned => ?_) id
      refine grounded.mentioned typeFound (List.mem_append_right _ ?_)
      rw [kind]
      exact mentioned

theorem grounded_addSchema (grounded : store.Grounded) {reference : TypeRef}
    (inside : ∀ id ∈ reference.mentions, id.position < store.types.size) :
    Grounded ((addSchema id reference).run store).2 := by
  cases found : store.compositeAt? id with
  | none =>
      have absent : (store.type? id).bind DocumentType.composite? = none := found
      unfold addSchema
      cases reference.target? with
      | none => exact grounded.notices _
      | some target =>
          simp only [run_bind, run_type?, absent]
          exact grounded
  | some composite =>
      rw [run_addSchema found]
      cases reference.target? with
      | none => exact grounded.notices _
      | some target =>
          rcases Store.type_of_compositeAt? found with ⟨type, typeFound, kind⟩
          refine grounded.setKind (fun other mentioned => ?_) id
          rcases CompositeType.of_mentions_addSchema mentioned with new | old
          · exact inside other new
          · refine grounded.mentioned typeFound (List.mem_append_right _ ?_)
            rw [kind]
            exact old

theorem grounded_declareField (grounded : store.Grounded) {declaration : FieldDeclaration}
    (inside : ∀ id ∈ declaration.valueType.mentions, id.position < store.types.size) :
    Grounded ((declareField id declaration).run.run store).2 := by
  unfold declareField
  rw [Attempt.run_bind_type?]
  rcases found : store.type? id with _ | ⟨name, base, flags, kind⟩
  · exact grounded
  · cases kind with
    | complex complex =>
        have mentions : ∀ other ∈
            (TypeKind.complex (complex.declare id name declaration).1).mentions,
            other.position < store.types.size := by
          intro other mentioned
          rcases @ComplexType.of_mentions_declareAll id other name [declaration] complex mentioned
            with rfl | ⟨_, member, here⟩ | old
          · exact Store.position_lt found
          · exact inside other (List.mem_singleton.mp member ▸ here)
          · exact grounded.mentioned found (List.mem_append_right _ old)
        dsimp only
        split
        · let late := Notice.lateField (complex.declare id name declaration).2.name
          exact (grounded.notices (late :: store.notices)).setKind mentions id
        · exact grounded.setKind mentions id
    | primitive | simple | composite | list => exact grounded

theorem grounded_schemaChanged (schema : String) : Preserves Grounded (schemaChanged schema) := by
  intro store grounded
  rcases run_schemaChanged schema store with ⟨types, notices, run, size, asked⟩
  have still : ∀ {ids : List TypeId}, (∀ id ∈ ids, id.position < store.types.size) →
      ∀ id ∈ ids, id.position < types.size := fun inside id member => size ▸ inside id member
  rw [run]
  refine ⟨fun type member id mentioned => ?_, still grounded.types, still grounded.schemas,
    still grounded.facets, nofun, still grounded.held⟩
  rcases Array.mem_iff_getElem?.mp member with ⟨position, found⟩
  have before := asked ⟨position⟩
  rw [show ({ store with types, notices } : Store).type? ⟨position⟩ = some type from found] at before
  rcases Option.map_eq_some_iff.mp before.symm with ⟨old, oldFound, rfl⟩
  rw [DocumentType.mentions_asked] at mentioned
  exact size ▸ grounded.mentioned oldFound mentioned

theorem grounded_registerComplex (grounded : store.Grounded)
    (present : id.position < store.types.size) (name : TypeName) (space : Namespace) :
    Grounded ((registerComplex id name space).run store).2 := by
  rcases run_releaseQualifier name.name store with ⟨released, releaseRun⟩
  rcases run_claimQualifier space.qualifier name.name
    (store.setRegistry { store.registry with qualifiers := released }) with
    ⟨qualifiers, notices, claimRun⟩
  unfold registerComplex
  simp only [run_bind, releaseRun, claimRun, run_modify, run_note]
  refine Grounded.notices (grounded_schemaChanged name.name _ ?_) _
  exact ⟨grounded.built, Store.inside_put grounded.types present name,
    Store.inside_put grounded.schemas present name.name, grounded.facets, grounded.remembered,
    grounded.held⟩

theorem grounded_registerSchema (id : TypeId) :
    Preserves Grounded (Attempt.registerSchema id).run := by
  intro store grounded
  unfold Attempt.registerSchema
  rw [Attempt.run_bind_type?]
  rcases found : store.type? id with _ | ⟨name, base, flags, kind⟩
  · exact grounded
  · cases kind with
    | complex complex =>
        exact grounded_registerComplex grounded (Store.position_lt found) name complex.space
    | primitive | simple | composite | list => exact grounded

theorem grounded_unregisterSchema (schema : String) :
    Preserves Grounded (unregisterSchema schema) := by
  intro store grounded
  unfold unregisterSchema
  rw [run_bind, run_get]
  cases store.registry.schemas.get? schema with
  | none => exact grounded
  | some id =>
      rcases run_releaseQualifier schema store with ⟨qualifiers, releaseRun⟩
      simp only [run_bind, releaseRun, run_type?, run_modify, run_note, run_pure]
      refine Grounded.notices (grounded_schemaChanged schema _ ?_) _
      exact ⟨grounded.built, fun other member => grounded.types other (Table.mem_values_of_erase member),
        fun other member => grounded.schemas other (Table.mem_values_of_erase member),
        grounded.facets, grounded.remembered, grounded.held⟩

theorem grounded_registerFacet (name : String) (schemas : List String) :
    Preserves Grounded (registerFacet name schemas) := by
  intro store grounded
  rcases run_registerFacet name schemas store with ⟨notices, run⟩
  rw [run]
  have plain : ∀ id ∈ (Blueprint.facet store.registryId name schemas).mentions,
      id.position < store.types.size := by
    rw [Blueprint.mentions_facet]
    exact nofun
  have pushed := grounded.push (Blueprint.mentions_built grounded plain)
  have present : store.nextId.position < (store.push
      ((Blueprint.facet store.registryId name schemas).built store)).types.size := by
    simp [Store.push, Store.nextId]
  exact ⟨pushed.built, Store.inside_put pushed.types present ⟨facetSchema, name⟩, pushed.schemas,
    Store.inside_put pushed.facets present name, pushed.remembered, pushed.held⟩

theorem grounded_registerPrimitives : Preserves Grounded registerPrimitives := by
  refine Preserves.forM _ fun kind _ => .bind (fun store grounded => ?_) grounded_registerType
  exact grounded_build grounded nofun

theorem grounded_dropRegistry : Preserves Grounded dropRegistry := by
  intro store grounded
  unfold dropRegistry
  rw [run_bind, run_modify]
  exact grounded_registerPrimitives _ ⟨grounded.built, nofun, nofun, nofun, nofun, grounded.held⟩

/-! ## Documents -/

theorem grounded_carryOut {plan : Plan} {registry : Registry} {registryId : RegistryId}
    (sound : plan.Sound registry registryId) :
    Preserves Grounded (Attempt.carryOut plan).run := by
  have build : ∀ {entry : SchemaPlan}, entry ∈ plan.schemas → ∀ blueprint ∈ entry.types ++
      [entry.schema], Preserves Grounded (Attempt.build blueprint).run := by
    intro entry present blueprint member store grounded
    refine grounded_attemptBuild grounded ?_
    rw [Blueprint.Refers.mentions_eq (sound.refers entry present blueprint member) fun _ =>
      Drafting.AimsAt.mentions_eq]
    exact nofun
  refine .attempt_bind (.attempt_forM _ fun blueprint member => ?_) fun _ => ?_
  · rcases List.mem_flatMap.mp member with ⟨entry, present, typeMember⟩
    exact .attempt_bind (build present blueprint (List.mem_append_left _ typeMember))
      grounded_registerType
  · refine .attempt_bind (.attempt_forM _ fun blueprint member => ?_) fun _ => ?_
    · rcases List.mem_map.mp member with ⟨entry, present, rfl⟩
      exact .attempt_bind (build present entry.schema
        (List.mem_append_right _ (List.mem_singleton.mpr rfl))) grounded_registerSchema
    · refine .attempt_forM _ fun facet _ => ?_
      exact .attempt_bind (grounded_registerFacet facet.1 facet.2) fun _ => .pure _

theorem grounded_load (document : SchemaDocument) :
    Preserves Grounded (Attempt.load document).run := by
  intro store grounded
  rcases plan_preserves_noted store document store (.refl store) with ⟨notices, noted⟩
  have planned := grounded.notices notices
  unfold Attempt.load
  rw [Attempt.run_bind]
  rcases run : (plan document).run.run store with ⟨outcome, middle⟩
  rw [run] at noted
  cases noted
  cases outcome with
  | error failure => exact planned
  | ok plan => exact grounded_carryOut (plan_sound run) _ planned

end Action

/-! ## Histories -/

namespace Operation

def mentions : Operation → List TypeId
  | build blueprint => blueprint.mentions
  | declareField id declaration => id :: declaration.valueType.mentions
  | addSchema id reference => id :: reference.mentions
  | registerType id | registerSchema id | invalidate id | fieldAt id _ | lookUp id _
  | fieldsOf id | snapshotOf id => [id]
  | hold holdings => holdings.held
  | unregisterSchema _ | registerFacet .. | load _ | loadText _ | loadFile _
  | registeredField _ | dropRegistry => []

end Operation

namespace Store

theorem Grounded.perform {store : Store} (grounded : store.Grounded) {operation : Operation}
    (inside : ∀ id ∈ operation.mentions, id.position < store.types.size) :
    (operation.perform store).Grounded := by
  cases operation with
  | build blueprint => exact Action.grounded_attemptBuild grounded inside
  | declareField id declaration =>
      exact Action.grounded_declareField grounded (List.forall_mem_cons.mp inside).2
  | registerType id => exact Action.grounded_registerType id store grounded
  | registerSchema id => exact Action.grounded_registerSchema id store grounded
  | unregisterSchema schema => exact Action.grounded_unregisterSchema schema store grounded
  | registerFacet name schemas => exact Action.grounded_registerFacet name schemas store grounded
  | load document => exact Action.grounded_load document store grounded
  | loadText text => exact Action.Preserves.loadText Action.grounded_load text store grounded
  | loadFile content => exact Action.Preserves.loadFile Action.grounded_load content store grounded
  | addSchema id reference =>
      exact Action.grounded_addSchema grounded (List.forall_mem_cons.mp inside).2
  | invalidate id => exact Action.grounded_invalidate id store grounded
  | registeredField path =>
      exact grounded.looked (Action.observes_registeredField path) fun _ _ =>
        Action.carries_registeredField path
  | fieldAt id path =>
      exact grounded.lookedAt (fun id => Action.fieldAt id path) (inside id List.mem_cons_self)
        (Action.observes_fieldAt id path) fun _ => Action.carries_fieldAt id path
  | lookUp id name =>
      exact grounded.lookedAt (fun id => Action.lookUp id name) (inside id List.mem_cons_self)
        (Action.observes_lookUp id name) fun _ => Action.carries_lookUp id name
  | fieldsOf id =>
      exact grounded.lookedAt Action.fieldsOf (inside id List.mem_cons_self)
        (Action.observes_fieldsOf id) fun _ => Action.carries_fieldsOf id
  | snapshotOf id =>
      exact grounded.lookedAt Action.snapshotOf (inside id List.mem_cons_self)
        (Action.observes_snapshotOf id) fun _ => Action.carries_snapshotOf id
  | hold holdings =>
      exact ⟨grounded.built, grounded.types, grounded.schemas, grounded.facets,
        grounded.remembered, inside⟩
  | dropRegistry => exact Action.grounded_dropRegistry store grounded

theorem grounded_blank : blank.Grounded where
  built type member := absurd member (Array.not_mem_empty type)
  types := nofun
  schemas := nofun
  facets := nofun
  remembered := nofun
  held := nofun

theorem grounded_initial : initial.Grounded :=
  Action.grounded_registerPrimitives blank grounded_blank

/-- The stores that operations on types that are there lead to. -/
inductive Attained : Store → Prop
  | initial : Attained .initial
  | performed {store : Store} {operation : Operation} (attained : Attained store)
      (inside : ∀ id ∈ operation.mentions, id.position < store.types.size) :
      Attained (operation.perform store)

/-- Whatever users do with the types that they have, no id is ever mentioned that is not
that of a type. -/
theorem Attained.grounded {store : Store} (attained : store.Attained) : store.Grounded := by
  induction attained with
  | initial => exact grounded_initial
  | performed _ inside induction => exact induction.perform inside

end Store
end DocumentTypes
