import DocumentTypes.Proofs.Kinds
import DocumentTypes.Proofs.Running
import DocumentTypes.Store.Building

/-! # Construction

What building makes of a blueprint: one type more, which is known beforehand, and
nothing else. -/

namespace DocumentTypes

variable {store : Store} {id : TypeId}

/-! ## Fields declared one after the other -/

namespace ComplexType

def declareAll (complex : ComplexType) (id : TypeId) (name : TypeName)
    (declarations : List FieldDeclaration) : ComplexType :=
  declarations.foldl (fun complex declaration => (complex.declare id name declaration).1) complex

theorem valueType_of_declareAll {id : TypeId} {name : TypeName}
    {declarations : List FieldDeclaration} {complex : ComplexType} {field : Field}
    (member : field ∈ (complex.declareAll id name declarations).fields.values) :
    field.valueType ∈ declarations.map FieldDeclaration.valueType ∨
      field ∈ complex.fields.values := by
  induction declarations generalizing complex with
  | nil => exact .inr member
  | cons declaration rest induction =>
      rcases induction member with later | earlier
      · exact .inl (List.mem_cons_of_mem _ later)
      · rcases Table.mem_values_put earlier with equal | old
        · exact .inl (equal ▸ List.mem_cons_self)
        · exact .inr old

theorem space_declareAll (declarations : List FieldDeclaration) (id : TypeId) (name : TypeName)
    (complex : ComplexType) : (complex.declareAll id name declarations).space = complex.space := by
  induction declarations generalizing complex with
  | nil => rfl
  | cons declaration rest induction => exact induction _

end ComplexType

/-- Register schemas on a composite, those that a reference aims at. -/
def CompositeType.addAll (composite : CompositeType) (references : List TypeRef) :
    CompositeType :=
  references.foldl (fun composite reference =>
    reference.target?.elim composite fun target => composite.addSchema target.name reference)
    composite

theorem CompositeType.requested_le_addAll (references : List TypeRef) (composite : CompositeType) :
    composite.requested ≤ (composite.addAll references).requested := by
  induction references generalizing composite with
  | nil => exact Nat.le_refl _
  | cons reference rest induction =>
      have later := induction (reference.target?.elim composite fun target =>
        composite.addSchema target.name reference)
      have earlier : composite.requested ≤ (reference.target?.elim composite fun target =>
          composite.addSchema target.name reference).requested := by
        cases reference.target? with
        | none => exact Nat.le_refl _
        | some target => exact Nat.le_succ _
      exact Nat.le_trans earlier later

theorem CompositeType.merged_addAll (references : List TypeRef) (composite : CompositeType) :
    (composite.addAll references).merged = composite.merged := by
  induction references generalizing composite with
  | nil => rfl
  | cons reference rest induction =>
      refine (induction _).trans ?_
      dsimp only
      cases reference.target? with
      | none => rfl
      | some target => rfl

theorem CompositeType.mem_references_addAll {references : List TypeRef}
    {composite : CompositeType} {reference : TypeRef}
    (member : reference ∈ (composite.addAll references).references.values) :
    reference ∈ references ∨ reference ∈ composite.references.values := by
  induction references generalizing composite with
  | nil => exact .inr member
  | cons first rest induction =>
      rcases induction member with later | earlier
      · exact .inl (List.mem_cons_of_mem _ later)
      · dsimp only at earlier
        cases aim : first.target? with
        | none =>
            rw [aim] at earlier
            exact .inr earlier
        | some target =>
            rw [aim] at earlier
            rcases Table.mem_values_put earlier with rfl | old
            · exact .inl List.mem_cons_self
            · exact .inr old

theorem CompositeType.outdated_addAll (references : List TypeRef) :
    (empty.addAll references).merged.revision < (empty.addAll references).requested := by
  rw [merged_addAll]
  exact requested_le_addAll references empty

namespace Action

theorem run_declareField {type : DocumentType} {complex : ComplexType}
    (found : store.type? id = some type) (kind : type.kind = .complex complex)
    (unsettled : complex.frozen = none) (declaration : FieldDeclaration) :
    (declareField id declaration).run.run store =
      (.ok (complex.declare id type.name declaration).2,
        store.setKind id (.complex (complex.declare id type.name declaration).1)) := by
  unfold declareField
  rw [Attempt.run_bind_type?, found]
  simp only [kind, unsettled]
  rfl

theorem run_declareAll (declarations : List FieldDeclaration) {store : Store}
    {type : DocumentType} {complex : ComplexType} (found : store.type? id = some type)
    (kind : type.kind = .complex complex) (unsettled : complex.frozen = none) :
    (declareAll id declarations).run store =
      (⟨⟩, store.setKind id (.complex (complex.declareAll id type.name declarations))) := by
  induction declarations generalizing store type complex with
  | nil =>
      have same : store.setKind id (.complex complex) = store := by
        rw [← kind]
        exact Store.setKind_self found
      exact congrArg (Prod.mk PUnit.unit) same.symm
  | cons declaration rest induction =>
      have first := run_declareField found kind unsettled declaration
      have foundAfter :
          (store.setKind id (.complex (complex.declare id type.name declaration).1)).type? id =
            some { type with
              kind := .complex (complex.declare id type.name declaration).1 } := by
        rw [Store.type?_setKind, if_pos rfl, found]
        rfl
      have later := induction foundAfter rfl unsettled
      rw [Store.setKind_setKind] at later
      change (declareAll id rest).run
        ((declareField id declaration).run.run store).2 = _
      rw [first]
      exact later

theorem run_addSchema {composite : CompositeType}
    (found : store.compositeAt? id = some composite) (reference : TypeRef) :
    (addSchema id reference).run store =
      (⟨⟩, reference.target?.elim (store.note .nullSchemaIgnored) fun target =>
        store.setKind id (.composite (composite.addSchema target.name reference))) := by
  unfold addSchema
  cases reference.target? with
  | none => rfl
  | some target =>
      have bound : (store.type? id).bind DocumentType.composite? = some composite := found
      simp only [run_bind, run_type?, bound]
      rfl

theorem run_addSchemas (references : List TypeRef) {store : Store} {composite : CompositeType}
    (found : store.compositeAt? id = some composite) :
    ∃ notices, (references.forM (addSchema id)).run store =
      (⟨⟩, { store.setKind id (.composite (composite.addAll references)) with notices }) := by
  induction references generalizing store composite with
  | nil =>
      have same := Store.setKind_composite_self found
      refine ⟨store.notices, ?_⟩
      change _ = (PUnit.unit,
        { store.setKind id (.composite composite) with notices := store.notices })
      rw [same]
      rfl
  | cons reference rest induction =>
      change ∃ notices, (rest.forM (addSchema id)).run
        ((addSchema id reference).run store).2 = _
      rw [run_addSchema found]
      cases aim : reference.target? with
      | none =>
          rcases @induction (store.note .nullSchemaIgnored) composite found with ⟨notices, run⟩
          refine ⟨notices, run.trans ?_⟩
          have same : composite.addAll (reference :: rest) = composite.addAll rest := by
            simp [CompositeType.addAll, aim]
          rw [same]
          unfold Store.note
          rw [Store.setKind_notices]
      | some target =>
          have foundAfter : (store.setKind id (.composite
              (composite.addSchema target.name reference))).compositeAt? id =
                some (composite.addSchema target.name reference) := by
            rw [Store.compositeAt?_setKind_composite found, if_pos rfl]
          rcases induction foundAfter with ⟨notices, run⟩
          refine ⟨notices, run.trans ?_⟩
          have same : composite.addAll (reference :: rest) =
              (composite.addSchema target.name reference).addAll rest := by
            simp [CompositeType.addAll, aim]
          rw [same, Store.setKind_setKind]

end Action

/-! ## Types from blueprints -/

namespace Blueprint

/-- The kind of a type once its fields are declared and its schemas registered. -/
def builtKind (blueprint : Blueprint) (store : Store) : TypeKind :=
  match blueprint.body with
  | .complex space unstructured fields =>
    let start : ComplexType :=
      { space, unstructured, fields := inheritedFields store blueprint.base }
    .complex (start.declareAll store.nextId blueprint.name fields)
  | .composite schemas => .composite (CompositeType.empty.addAll schemas)
  | _ => blueprint.initialKind store

def built (blueprint : Blueprint) (store : Store) : DocumentType where
  name := blueprint.name
  base := blueprint.base
  flags := blueprint.flags
  kind := blueprint.builtKind store

end Blueprint

theorem Action.run_build (blueprint : Blueprint) (store : Store) :
    ∃ notices, (build blueprint).run store =
      (store.nextId, { store.push (blueprint.built store) with notices }) := by
  let start : DocumentType := {
    name := blueprint.name
    base := blueprint.base
    flags := blueprint.flags
    kind := blueprint.initialKind store }
  have startFound : (store.push start).type? store.nextId = some start := by
    rw [Store.type?_push, if_pos rfl]
  rcases blueprint with ⟨name, base, flags, body⟩
  cases body with
  | primitive | simple | list => exact ⟨store.notices, rfl⟩
  | complex space unstructured fields =>
      refine ⟨store.notices, ?_⟩
      have declared := run_declareAll fields startFound rfl rfl
      rw [Store.push_setKind] at declared
      exact congrArg (fun result => (store.nextId, result.2)) declared
  | composite schemas =>
      have isComposite : (store.push start).compositeAt? store.nextId =
          some CompositeType.empty := by
        rw [Store.compositeAt?_push, if_pos rfl]
        rfl
      rcases run_addSchemas schemas isComposite with ⟨notices, added⟩
      rw [Store.push_setKind] at added
      exact ⟨notices,
        congrArg (fun result : PUnit × Store => (store.nextId, result.2)) added⟩

end DocumentTypes
