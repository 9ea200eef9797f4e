import DocumentTypes.Proofs.Merge
import DocumentTypes.Proofs.PrimitiveMemos
import DocumentTypes.Proofs.Reads
import DocumentTypes.Proofs.Steadiness

/-! # Indexes of fields

A composite finds fields in an index that was made with the snapshot that it shows. Whatever
happens to a store, under each name every index has the last of the shown fields that goes by
this name. -/

namespace DocumentTypes

/-! ## Snapshots -/

/-- Under each name the last of the fields that goes by it is found. -/
def Snapshot.Indexed (snapshot : Snapshot) : Prop :=
  ∀ name, snapshot.fieldsByName.get? name = snapshot.fields.reverse.find? (·.isShownAs name)

namespace Snapshot

theorem indexed_empty (generation revision : Nat) :
    ({ Snapshot.empty with generation, revision } : Snapshot).Indexed := fun _ => rfl

theorem Indexed.addSchema {snapshot : Snapshot} (indexed : snapshot.Indexed) (schema : TypeId)
    (qualifier : String) (fields : List Field) :
    (snapshot.addSchema schema qualifier fields).Indexed := by
  intro name
  change (fields.foldl _ snapshot.fieldsByName).get? name =
    (snapshot.fields ++ fields).reverse.find? _
  rw [get?_foldl_put, indexed name, List.reverse_append, List.find?_append]

end Snapshot

/-! ## Stores -/

def Store.Indexed (store : Store) : Prop :=
  ∀ id composite, store.compositeAt? id = some composite → composite.merged.Indexed

namespace Store.Indexed

variable {before after store : Store} {id : TypeId} {type : DocumentType}

theorem setKind {kind : TypeKind} (indexed : store.Indexed)
    (shown : ∀ composite, kind = .composite composite → composite.merged.Indexed) :
    (store.setKind id kind).Indexed := by
  intro other composite found
  rw [compositeAt?_eq, type?_setKind] at found
  split at found
  next =>
    cases present : store.type? id with
    | none =>
        rw [present] at found
        cases found
    | some type =>
        rw [present] at found
        cases kind with
        | composite shownComposite => exact Option.some.inj found ▸ shown shownComposite rfl
        | primitive | simple | complex | list => cases found
  next =>
    rw [← compositeAt?_eq] at found
    exact indexed other composite found

theorem setComplex (indexed : store.Indexed) (complex : ComplexType) :
    (store.setKind id (.complex complex)).Indexed :=
  indexed.setKind fun _ other => nomatch other

theorem setComposite (indexed : store.Indexed) {composite : CompositeType}
    (shown : composite.merged.Indexed) : (store.setKind id (.composite composite)).Indexed :=
  indexed.setKind fun _ same => TypeKind.composite.inj same ▸ shown

theorem note (indexed : store.Indexed) (notice : Notice) : (store.note notice).Indexed := indexed

theorem push (indexed : store.Indexed)
    (shown : ∀ composite, type.composite? = some composite → composite.merged.Indexed) :
    (store.push type).Indexed := by
  intro other composite found
  rw [compositeAt?_push] at found
  split at found
  · exact shown composite found
  · exact indexed other composite found

theorem built (indexed : store.Indexed) (blueprint : Blueprint) :
    (store.push (blueprint.built store)).Indexed := by
  refine indexed.push fun composite built => ?_
  rcases blueprint with ⟨name, base, flags, body⟩
  cases body with
  | composite schemas =>
      cases built
      rw [CompositeType.merged_addAll]
      exact Snapshot.indexed_empty 0 0
  | primitive | simple | complex | list => cases built

theorem rememberAll (indexed : store.Indexed) (trail : List TypeId) (primitive : TypeId) :
    (store.rememberAll trail primitive).Indexed := by
  intro other composite found
  rw [compositeAt?_rememberAll] at found
  exact indexed other composite found

theorem asked {schema : String} {facets : List TypeId} {registry : Registry}
    (indexed : before.Indexed) (asked : Asked schema facets (before.setRegistry registry) after) :
    after.Indexed := by
  intro id composite found
  cases earlier : before.compositeAt? id with
  | none =>
      rw [compositeAt?, asked.type?_eq id earlier] at found
      cases earlier.symm.trans found
  | some present =>
      rcases asked.compositeAt? id present earlier with ⟨count, laterFound, -⟩
      cases found.symm.trans laterFound
      exact indexed id present earlier

end Store.Indexed

namespace Action

open Store (Indexed)

/-! ## Mergers -/

section

variable {fieldsOf : TypeId → Action (List Field)} {store : Store} {snapshot : Snapshot}

theorem indexed_mergeSchema (each : ∀ id, Preserves Indexed (fieldsOf id))
    (entry : String × TypeRef) (holds : store.Indexed) (indexed : snapshot.Indexed) :
    ((mergeSchema fieldsOf snapshot entry).run store).2.Indexed ∧
      ((mergeSchema fieldsOf snapshot entry).run store).1.Indexed := by
  simp only [mergeSchema, run_bind, run_resolve]
  cases store.resolve entry.2 with
  | none => exact ⟨holds, indexed⟩
  | some schema => exact ⟨each schema store holds, indexed.addSchema _ _ _⟩

theorem indexed_foldlM (each : ∀ id, Preserves Indexed (fieldsOf id))
    (entries : List (String × TypeRef)) (holds : store.Indexed) (indexed : snapshot.Indexed) :
    ((entries.foldlM (mergeSchema fieldsOf) snapshot).run store).2.Indexed ∧
      ((entries.foldlM (mergeSchema fieldsOf) snapshot).run store).1.Indexed := by
  induction entries generalizing store snapshot with
  | nil => exact ⟨holds, indexed⟩
  | cons entry rest induction =>
      rw [List.foldlM_cons, run_bind]
      rcases indexed_mergeSchema each entry holds indexed with ⟨nextHolds, nextIndexed⟩
      exact induction nextHolds nextIndexed

theorem indexed_merge (each : ∀ id, Preserves Indexed (fieldsOf id)) (id : TypeId)
    (composite : CompositeType) (holds : store.Indexed) :
    ((merge fieldsOf id composite).run store).2.Indexed ∧
      ((merge fieldsOf id composite).run store).1.Indexed := by
  rcases indexed_foldlM each composite.references.entries holds
    (Snapshot.indexed_empty (composite.merged.generation + 1) composite.requested) with
    ⟨after, merged⟩
  exact ⟨(after.note _).setComposite merged, merged⟩

end

theorem indexed_fieldsWithin (depth : Nat) (id : TypeId) :
    Preserves Indexed (fieldsWithin depth id) := by
  induction depth generalizing id with
  | zero =>
      intro store holds
      rcases run_fieldsWithin 0 id store with ⟨_, _, run⟩ | ⟨_, _, _, run⟩ |
        ⟨_, _, _, _, none, _⟩ | ⟨_, _, _, _, run⟩ | run
      case inr.inr.inl => cases none
      case inr.inr.inr.inl =>
        rw [run]
        exact holds.note _
      all_goals
        rw [run]
        exact holds
  | succ less induction =>
      intro store holds
      rcases run_fieldsWithin (less + 1) id store with ⟨_, _, run⟩ | ⟨_, _, _, run⟩ |
        ⟨composite, _, _, _, same, run⟩ | ⟨_, _, _, none, _⟩ | run
      case inr.inr.inl =>
        cases same
        rw [run]
        exact (indexed_merge induction id composite holds).1
      case inr.inr.inr.inl => cases none
      all_goals
        rw [run]
        exact holds

theorem indexed_fieldsOf (id : TypeId) : Preserves Indexed (fieldsOf id) :=
  fun store => indexed_fieldsWithin (store.types.size + 1) id store

theorem indexed_snapshotOf (id : TypeId) : Preserves Indexed (snapshotOf id) := by
  intro store holds
  cases found : store.compositeAt? id with
  | none =>
      have absent : (store.type? id).bind DocumentType.composite? = none := found
      simp only [snapshotOf, run_bind, run_type?, absent]
      exact holds
  | some composite =>
      rw [run_snapshotOf found]
      split
      · exact holds
      · exact (indexed_merge (indexed_fieldsWithin _) id composite holds).1

theorem indexed_shown {store : Store} (holds : store.Indexed) (id : TypeId) :
    ((snapshotOf id).run store).1.Indexed := by
  cases found : store.compositeAt? id with
  | none =>
      have absent : (store.type? id).bind DocumentType.composite? = none := found
      simp only [snapshotOf, run_bind, run_type?, absent]
      exact Snapshot.indexed_empty 0 0
  | some composite =>
      rw [run_snapshotOf found]
      split
      · exact holds id composite found
      · exact (indexed_merge (indexed_fieldsWithin _) id composite holds).2

/-! ## Reads -/

theorem indexed_lookUp (id : TypeId) (name : String) : Preserves Indexed (lookUp id name) := by
  refine .bind (.type? id) fun type => ?_
  split
  next complex _ => exact fun store holds => holds.setComplex _
  · exact .bind (indexed_snapshotOf id) fun _ => .pure _
  · exact .pure _

theorem indexed_topLevelField (name : String) : Preserves Indexed (topLevelField name) := by
  refine .bind (fun _ holds => holds) fun store => ?_
  split
  · exact .pure _
  · refine .bind (fun _ holds => holds) fun store => ?_
    split
    · exact .pure _
    · refine .bind (indexed_lookUp _ _) fun field => ?_
      cases field with
      | none => exact .pure _
      | some field => exact .bind (fun _ holds => holds) fun _ => .pure _

theorem indexed_primitiveOf (id : TypeId) : Preserves Indexed (primitiveOf id) := by
  intro store holds
  rcases run_primitiveOf id store with ⟨trail, primitive, -, run⟩ | ⟨run, -⟩
  · rw [run]
    exact holds.rememberAll trail primitive
  · rw [run]
    exact holds

theorem keptByReads_indexed : KeptByReads Indexed where
  note _ _ holds := holds
  lookUp := indexed_lookUp
  snapshotOf := indexed_snapshotOf
  primitiveOf := indexed_primitiveOf
  fieldsOf := indexed_fieldsOf
  topLevelField := indexed_topLevelField

/-! ## Building and registering -/

theorem indexed_build (blueprint : Blueprint) : Preserves Indexed (build blueprint) := by
  intro store holds
  rcases run_build blueprint store with ⟨notices, run⟩
  have built := holds.built blueprint
  rw [run]
  exact built

theorem indexed_attemptBuild (blueprint : Blueprint) :
    Preserves Indexed (Attempt.build blueprint).run := by
  unfold Attempt.build
  split
  · exact indexed_build blueprint
  · exact .pure _

theorem indexed_registerType (id : TypeId) : Preserves Indexed (registerType id) := by
  intro store holds
  cases found : store.type? id with
  | none =>
      unfold registerType
      rw [run_bind, run_type?, found]
      exact holds
  | some type =>
      rcases run_registerType found with ⟨notices, run⟩
      rw [run]
      exact holds

theorem indexed_registerSchema (id : TypeId) :
    Preserves Indexed (Attempt.registerSchema id).run := by
  intro store holds
  unfold Attempt.registerSchema
  rw [Attempt.run_bind_type?]
  rcases store.type? id with _ | ⟨name, base, flags, kind⟩
  · exact holds
  · cases kind with
    | complex complex =>
        rcases asked_registerComplex id name complex.space store with ⟨qualifiers, asked⟩
        exact holds.asked asked
    | primitive | simple | composite | list => exact holds

theorem indexed_unregisterSchema (schema : String) :
    Preserves Indexed (unregisterSchema schema) := by
  intro store holds
  rcases asked_unregisterSchema schema store with unchanged | ⟨name, qualifiers, asked⟩
  · rw [unchanged]
    exact holds
  · exact holds.asked asked

theorem indexed_registerFacet (name : String) (schemas : List String) :
    Preserves Indexed (registerFacet name schemas) := by
  refine .bind (.forM _ fun schema _ => ?_) fun _ => ?_
  · unfold noteUnknownSchema
    refine .bind (fun _ holds => holds) fun store => ?_
    split <;> exact fun _ holds => holds
  · refine .bind (fun _ holds => holds) fun store => ?_
    exact .bind (indexed_build _) fun id => fun _ holds => holds

theorem indexed_registerPrimitives : Preserves Indexed registerPrimitives :=
  .forM _ fun _ _ => .bind (indexed_build _) fun id => indexed_registerType id

theorem indexed_dropRegistry : Preserves Indexed dropRegistry :=
  .bind (fun _ holds => holds) fun _ => indexed_registerPrimitives

theorem indexed_declareField (id : TypeId) (declaration : FieldDeclaration) :
    Preserves Indexed (declareField id declaration).run := by
  intro store holds
  unfold declareField
  rw [Attempt.run_bind_type?]
  rcases store.type? id with _ | ⟨name, base, flags, kind⟩
  · exact holds
  · cases kind with
    | complex complex =>
        dsimp only
        split
        · exact (holds.note _).setComplex _
        · exact holds.setComplex _
    | primitive | simple | composite | list => exact holds

theorem indexed_addSchema (id : TypeId) (reference : TypeRef) :
    Preserves Indexed (addSchema id reference) := by
  intro store holds
  cases found : store.compositeAt? id with
  | none =>
      have absent : (store.type? id).bind DocumentType.composite? = none := found
      unfold addSchema
      cases reference.target? with
      | none => exact holds
      | some target =>
          simp only [run_bind, run_type?, absent]
          exact holds
  | some composite =>
      rw [run_addSchema found]
      cases reference.target? with
      | none => exact holds
      | some target => exact holds.setComposite (holds id composite found)

theorem indexed_invalidate (id : TypeId) : Preserves Indexed (invalidate id) := by
  intro store holds
  unfold invalidate
  rw [run_bind, run_type?]
  cases found : (store.type? id).bind DocumentType.composite? with
  | none => exact holds
  | some composite => exact holds.setComposite (holds id composite found)

/-! ## Documents -/

theorem keptByEntering_indexed : KeptByEntering Indexed where
  noted _ _ holds := holds
  build := indexed_attemptBuild
  registerType := indexed_registerType
  registerSchema := indexed_registerSchema
  registerFacet := indexed_registerFacet

end Action

/-! ## Histories -/

namespace Store

theorem Indexed.perform {store : Store} (indexed : store.Indexed) (event : Event) :
    (event.perform store).Indexed := by
  cases event with
  | ask query =>
      cases query with
      | primitiveOf id => exact Action.indexed_primitiveOf id store indexed
      | decode id text => exact Action.keptByReads_indexed.decode id text store indexed
      | encode id value => exact Action.keptByReads_indexed.encode value id store indexed
      | convert id value => exact Action.keptByReads_indexed.convert value id store indexed
      | validate => exact indexed
  | operate operation =>
      have loads := Action.keptByEntering_indexed.load
      cases operation with
      | build blueprint => exact Action.indexed_attemptBuild blueprint store indexed
      | declareField id declaration =>
          exact Action.indexed_declareField id declaration store indexed
      | registerType id => exact Action.indexed_registerType id store indexed
      | registerSchema id => exact Action.indexed_registerSchema id store indexed
      | unregisterSchema schema => exact Action.indexed_unregisterSchema schema store indexed
      | registerFacet name schemas => exact Action.indexed_registerFacet name schemas store indexed
      | load document => exact loads document store indexed
      | loadText text => exact Action.Preserves.loadText loads text store indexed
      | loadFile content => exact Action.Preserves.loadFile loads content store indexed
      | addSchema id reference => exact Action.indexed_addSchema id reference store indexed
      | invalidate id => exact Action.indexed_invalidate id store indexed
      | registeredField path => exact Action.keptByReads_indexed.registeredField path store indexed
      | fieldAt id path => exact Action.keptByReads_indexed.fieldAt id path store indexed
      | lookUp id name => exact Action.indexed_lookUp id name store indexed
      | fieldsOf id => exact Action.indexed_fieldsOf id store indexed
      | snapshotOf id => exact Action.indexed_snapshotOf id store indexed
      | hold => exact indexed
      | dropRegistry => exact Action.indexed_dropRegistry store indexed

/-- After any history, whatever a composite shows is indexed. -/
theorem indexed_after (events : List Event) : (Store.initial.after events).Indexed := by
  refine after_keeps Store.Indexed (fun event indexed => indexed.perform event) events ?_
  exact Action.indexed_registerPrimitives .blank fun _ _ found => nomatch found

end Store
end DocumentTypes
