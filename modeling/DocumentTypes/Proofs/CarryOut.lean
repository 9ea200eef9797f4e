import DocumentTypes.Proofs.Planning
import DocumentTypes.Proofs.Registration

/-! # Carrying out plans

A sound plan is carried out without failure. The store only grows by that: what is
registered remains registered, and every new type refers to what the plan admits. -/

namespace DocumentTypes

/-- The references of a type: to the type that it derives from, and to the types of its
fields or items. The schemas of a composite are not among them. -/
def DocumentType.references (type : DocumentType) : List TypeRef :=
  (if type.base.isNull then [] else [type.base]) ++ match type.kind with
    | .complex complex => complex.fields.values.map Field.valueType
    | .list list => [list.item.valueType]
    | .primitive _ | .simple _ | .composite _ => []

theorem DocumentType.references_of_composite {type : DocumentType} {composite : CompositeType}
    (found : type.composite? = some composite) :
    type.references = if type.base.isNull then [] else [type.base] := by
  rcases type with ⟨name, base, flags, kind⟩
  cases kind <;> cases found
  exact List.append_nil _

namespace Blueprint

theorem Refers.built {admitted : TypeRef → Prop} {blueprint : Blueprint}
    (refers : blueprint.Refers admitted) (store : Store) :
    ∀ reference ∈ (blueprint.built store).references, admitted reference := by
  rcases blueprint with ⟨name, base, flags, body⟩
  intro reference member
  cases body with
  | primitive | composite => cases refers
  | simple constraints =>
      rcases refers with ⟨derived, covered⟩
      have same : reference = base := by
        simpa [DocumentType.references, Blueprint.built, builtKind, initialKind, derived]
          using member
      exact same ▸ covered
  | list item itemName defaultText minOccurs maxOccurs =>
      rcases refers with ⟨rfl, covered⟩
      have same : reference = item := by
        simpa [DocumentType.references, Blueprint.built, builtKind, initialKind, itemField,
          TypeRef.isNull] using member
      exact same ▸ covered
  | complex space unstructured fields =>
      rcases refers with ⟨rfl, covered⟩
      rcases List.mem_map.mp member with ⟨field, present, rfl⟩
      rcases ComplexType.valueType_of_declareAll present with declared | inherited
      · rcases List.mem_map.mp declared with ⟨declaration, declarationMember, same⟩
        exact same ▸ covered declaration declarationMember
      · cases inherited

theorem Refers.isComplete {admitted : TypeRef → Prop} {blueprint : Blueprint}
    (refers : blueprint.Refers admitted) : blueprint.isComplete = true := by
  rcases blueprint with ⟨name, base, flags, body⟩
  cases body with
  | simple => simpa [Blueprint.isComplete] using refers.1
  | primitive | composite | complex | list => rfl

end Blueprint

namespace Store

/-- A store has got more types, all of which refer to what is admitted. -/
structure Grown (admitted : TypeRef → Prop) (before after : Store) : Prop where
  registryId_eq : after.registryId = before.registryId
  size_le : before.types.size ≤ after.types.size
  registered : ∀ name, before.registry.types.contains name = true →
    after.registry.types.contains name = true
  exist : before.TypesExist → after.TypesExist
  kept : ∀ id type, before.type? id = some type →
    ∃ later, after.type? id = some later ∧ later.references = type.references
  built : ∀ id type, before.types.size ≤ id.position → after.type? id = some type →
    ∀ reference ∈ type.references, admitted reference

namespace Grown

variable {admitted : TypeRef → Prop} {first second third store : Store}

theorem refl (store : Store) : Grown admitted store store where
  registryId_eq := rfl
  size_le := Nat.le_refl _
  registered _ := id
  exist := id
  kept _ type found := ⟨type, found, rfl⟩
  built id type outside found := by
    have inside := position_lt found
    omega

theorem trans (before : Grown admitted first second) (after : Grown admitted second third) :
    Grown admitted first third where
  registryId_eq := after.registryId_eq.trans before.registryId_eq
  size_le := Nat.le_trans before.size_le after.size_le
  registered name member := after.registered name (before.registered name member)
  exist holds := after.exist (before.exist holds)
  kept id type found := by
    rcases before.kept id type found with ⟨middle, middleFound, same⟩
    rcases after.kept id middle middleFound with ⟨later, laterFound, sameLater⟩
    exact ⟨later, laterFound, sameLater.trans same⟩
  built id type outside found := by
    by_cases new : second.types.size ≤ id.position
    · exact after.built id type new found
    · have inside := type?_isSome_iff.mpr (Nat.lt_of_not_le new)
      rcases Option.isSome_iff_exists.mp inside with ⟨middle, middleFound⟩
      rcases after.kept id middle middleFound with ⟨later, laterFound, same⟩
      cases laterFound.symm.trans found
      rw [same]
      exact before.built id middle outside middleFound

theorem pushed {type : DocumentType} (admits : ∀ reference ∈ type.references, admitted reference)
    (name : TypeName) {registry : Registry}
    (types : registry.types = store.registry.types.put name store.nextId)
    (notices : List Notice) :
    Grown admitted store { store.push type with registry, notices } where
  registryId_eq := rfl
  size_le := by simp [push]
  registered other member := by
    rw [types, Table.contains_put, member, Bool.or_true]
  exist holds := by
    have pushed : (store.push type).TypesExist := holds.of_size rfl (by simp [push])
    have present : ((store.push type).type? store.nextId).isSome = true := by
      rw [type?_push, if_pos rfl]
      rfl
    exact pushed.put present types
  kept id other found := by
    refine ⟨other, ?_, rfl⟩
    exact (type?_push store type id).trans (by rw [if_neg (ne_nextId found), found])
  built id other outside found := by
    change (store.push type).type? id = some other at found
    rw [type?_push] at found
    by_cases last : id = store.nextId
    · rw [if_pos last] at found
      cases found
      exact admits
    · rw [if_neg last] at found
      have inside := position_lt found
      omega

theorem asked {schema : String} {facets : List TypeId} {after : Store}
    (asked : Asked schema facets store after) : Grown admitted store after where
  registryId_eq := asked.registryId_eq
  size_le := Nat.le_of_eq asked.size_eq.symm
  registered name member := by
    rw [asked.registry_eq]
    exact member
  exist holds name id found := by
    rw [asked.registry_eq] at found
    rw [type?_isSome_iff, asked.size_eq, ← type?_isSome_iff]
    exact holds name id found
  kept id type found := by
    cases composite : store.compositeAt? id with
    | none => exact ⟨type, (asked.type?_eq id composite).trans found, rfl⟩
    | some present =>
        rcases asked.compositeAt? id present composite with ⟨count, foundAfter, -⟩
        rcases Option.bind_eq_some_iff.mp foundAfter with ⟨later, laterFound, isComposite⟩
        refine ⟨later, laterFound, ?_⟩
        have base := asked.base_eq id
        rw [laterFound, found] at base
        rw [compositeAt?, found] at composite
        rw [DocumentType.references_of_composite isComposite,
          DocumentType.references_of_composite composite, Option.some.inj base]
  built id type outside found := by
    have inside := position_lt found
    rw [asked.size_eq] at inside
    omega

theorem of_notices {notices : List Notice}
    (grown : Grown admitted { first with notices } second) : Grown admitted first second :=
  ⟨grown.registryId_eq, grown.size_le, grown.registered, grown.exist, grown.kept, grown.built⟩

end Grown
end Store

/-! ## Types, schemas and facets -/

namespace Attempt

variable {admitted : TypeRef → Prop}

theorem run_build_ok {blueprint : Blueprint} (complete : blueprint.isComplete = true)
    (store : Store) : ∃ notices, (build blueprint).run.run store =
      (.ok store.nextId, { store.push (blueprint.built store) with notices }) := by
  rcases Action.run_build blueprint store with ⟨notices, run⟩
  refine ⟨notices, ?_⟩
  unfold build
  rw [if_pos complete]
  rw [run_lift, run]

theorem enterType_grows {blueprint : Blueprint} (refers : blueprint.Refers admitted)
    (store : Store) : ∃ after, (enterType blueprint).run.run store = (.ok (), after) ∧
      store.Grown admitted after ∧ after.registry.types.contains blueprint.name = true := by
  rcases run_build_ok refers.isComplete store with ⟨built, buildRun⟩
  let middle : Store := { store.push (blueprint.built store) with notices := built }
  have found : middle.type? store.nextId = some (blueprint.built store) :=
    (Store.type?_push _ _ _).trans (if_pos rfl)
  rcases Action.run_registerType found with ⟨notices, run⟩
  let types := store.registry.types.put blueprint.name store.nextId
  refine ⟨{ store.push (blueprint.built store) with
    registry := { store.registry with types }, notices }, ?_, ?_, ?_⟩
  · unfold enterType
    rw [run_bind_ok buildRun, run_lift, run]
    rfl
  · exact .pushed (refers.built store) blueprint.name rfl notices
  · change types.contains blueprint.name = true
    exact Table.contains_put_self _ _ _

theorem run_registerSchema {store : Store} {id : TypeId} {type : DocumentType}
    {complex : ComplexType} (found : store.type? id = some type)
    (kind : type.kind = .complex complex) : (registerSchema id).run.run store =
      (.ok (), ((Action.registerComplex id type.name complex.space).run store).2) := by
  unfold registerSchema
  rw [run_bind_type?, found]
  simp only [kind]
  rfl

theorem enterSchema_grows {blueprint : Blueprint} {space : Namespace}
    {fields : List FieldDeclaration} (body : blueprint.body = .complex space none fields)
    (refers : blueprint.Refers admitted) (store : Store) :
    ∃ after, (enterSchema blueprint).run.run store = (.ok (), after) ∧
      store.Grown admitted after ∧ after.registry.types.contains blueprint.name = true := by
  rcases run_build_ok refers.isComplete store with ⟨notices, buildRun⟩
  let middle : Store := { store.push (blueprint.built store) with notices }
  rcases Action.asked_registerComplex store.nextId blueprint.name space middle with
    ⟨qualifiers, asked⟩
  refine ⟨((Action.registerComplex store.nextId blueprint.name space).run middle).2, ?_, ?_, ?_⟩
  · have found : middle.type? store.nextId = some (blueprint.built store) :=
      (Store.type?_push _ _ _).trans (if_pos rfl)
    rcases blueprint with ⟨name, base, flags, _⟩
    cases body
    unfold enterSchema
    rw [run_bind_ok buildRun, run_registerSchema found rfl, ComplexType.space_declareAll]
    rfl
  · refine .trans (.pushed (refers.built store) blueprint.name rfl notices) (.asked asked)
  · rw [asked.registry_eq]
    exact Table.contains_put_self _ _ _

theorem enterFacet_grows (facet : String × List String) (store : Store) :
    ∃ after, (do let _ ← Action.registerFacet facet.1 facet.2 : Attempt Unit).run.run store =
        (.ok (), after) ∧
      store.Grown admitted after ∧
      after.registry.types.contains ⟨facetSchema, facet.1⟩ = true := by
  rcases Action.run_registerFacet facet.1 facet.2 store with ⟨notices, run⟩
  refine ⟨((Action.registerFacet facet.1 facet.2).run store).2, rfl, ?_, ?_⟩
  · rw [run]
    exact .pushed (fun reference member => by cases member) ⟨facetSchema, facet.1⟩ rfl notices
  · rw [run]
    exact Table.contains_put_self _ _ _

theorem forM_grows {α : Type} {action : α → Attempt PUnit} {named : α → TypeName}
    (values : List α)
    (each : ∀ value ∈ values, ∀ store, ∃ after,
      (action value).run.run store = (.ok (), after) ∧ store.Grown admitted after ∧
        after.registry.types.contains (named value) = true) (store : Store) :
    ∃ after, (values.forM action).run.run store = (.ok (), after) ∧
      store.Grown admitted after ∧
      ∀ value ∈ values, after.registry.types.contains (named value) = true := by
  induction values generalizing store with
  | nil => exact ⟨store, rfl, .refl store, fun _ member => by cases member⟩
  | cons value rest induction =>
      rcases each value List.mem_cons_self store with ⟨middle, first, grown, registered⟩
      rcases induction (fun other member => each other (List.mem_cons_of_mem _ member)) middle with
        ⟨after, later, grownLater, registeredLater⟩
      refine ⟨after, (run_bind_ok first _).trans later, grown.trans grownLater, ?_⟩
      intro other member
      rcases List.mem_cons.mp member with same | tail
      · exact same ▸ grownLater.registered _ registered
      · exact registeredLater other tail

/-- A sound plan is carried out without failure. In the end all that it builds is
registered. -/
theorem carryOut_grows {plan : Plan} {registry : Registry} {registryId : RegistryId}
    (sound : plan.Sound registry registryId) (store : Store) :
    ∃ after, (carryOut plan).run.run store = (.ok (), after) ∧
      store.Grown (Drafting.AimsAt registry registryId (Plan.builtNames plan.schemas)) after ∧
      ∀ name ∈ Plan.builtNames plan.schemas, after.registry.types.contains name = true := by
  let admitted := Drafting.AimsAt registry registryId (Plan.builtNames plan.schemas)
  have types : ∀ blueprint ∈ plan.schemas.flatMap SchemaPlan.types, blueprint.Refers admitted := by
    intro blueprint member
    rcases List.mem_flatMap.mp member with ⟨entry, present, typeMember⟩
    exact sound.refers entry present blueprint (List.mem_append_left _ typeMember)
  rcases forM_grows _ (fun blueprint member => enterType_grows (types blueprint member)) store with
    ⟨typed, typesRun, typesGrown, typesNamed⟩
  have schemas : ∀ blueprint ∈ plan.schemas.map SchemaPlan.schema, ∀ before, ∃ after,
      (enterSchema blueprint).run.run before = (.ok (), after) ∧ before.Grown admitted after ∧
        after.registry.types.contains blueprint.name = true := by
    intro blueprint member before
    rcases List.mem_map.mp member with ⟨entry, present, rfl⟩
    rcases sound.schema entry present with ⟨space, fields, body⟩
    exact enterSchema_grows body (sound.refers entry present entry.schema
      (List.mem_append_right _ (List.mem_singleton.mpr rfl))) before
  rcases forM_grows _ schemas typed with ⟨entered, schemasRun, schemasGrown, schemasNamed⟩
  rcases forM_grows plan.facets (fun facet _ => enterFacet_grows facet) entered with
    ⟨after, facetsRun, facetsGrown, -⟩
  refine ⟨after, ?_, typesGrown.trans (schemasGrown.trans facetsGrown), ?_⟩
  · unfold carryOut
    rw [run_bind_ok typesRun, run_bind_ok schemasRun]
    exact facetsRun
  · intro name member
    rcases List.mem_flatMap.mp member with ⟨entry, present, named⟩
    rcases List.mem_append.mp named with type | schema
    · rcases List.mem_map.mp type with ⟨blueprint, blueprintMember, rfl⟩
      exact facetsGrown.registered _ (schemasGrown.registered _ (typesNamed blueprint
        (List.mem_flatMap.mpr ⟨entry, present, blueprintMember⟩)))
    · rw [List.mem_singleton.mp schema]
      exact facetsGrown.registered _ (schemasNamed _ (List.mem_map_of_mem present))

end Attempt
end DocumentTypes
