import DocumentTypes.Proofs.Consulting
import DocumentTypes.Proofs.Merge
import DocumentTypes.Store.Registration

/-! # Observation

To look at types has effects: composites merge their schemas, and lookups are
remembered. What one such effect may be is said once, as the steps of a relation
between stores, and every action that only looks at types is shown to move a store
along it. Whatever the single steps keep is then kept by all these actions. -/

namespace DocumentTypes

/-! ## What is declared and what is derived -/

namespace TypeKind

def bare : TypeKind → TypeKind
  | .complex type => .complex { type with lookups := .empty }
  | kind => kind

/-- A kind without anything that was derived from other types. -/
def declared : TypeKind → TypeKind
  | .simple type => .simple { type with primitive := none }
  | .complex type => .complex { type with lookups := .empty }
  | .composite type => .composite { type with merged := .empty }
  | kind => kind

end TypeKind

theorem Registry.schemas_of_schemaFor? {registry : Registry} {qualifier : String}
    {schema : TypeId} (found : registry.schemaFor? qualifier = some schema) :
    ∃ name, registry.schemas.get? name = some schema := by
  unfold schemaFor? schemaByQualifier? at found
  cases owner : (registry.qualifiers.get? qualifier).bind registry.schemas.get? with
  | none =>
      rw [owner] at found
      exact ⟨qualifier, found⟩
  | some owned =>
      rw [owner] at found
      cases found
      rcases Option.bind_eq_some_iff.mp owner with ⟨name, -, registered⟩
      exact ⟨name, registered⟩

namespace Store

def SameDeclared (left right : Store) : Prop :=
  left.stripped .declared = right.stripped .declared

variable {left right : Store}

theorem SameDeclared.eq (same : left.SameDeclared right) :
    left.stripped .declared = right.stripped .declared := same

theorem SameDeclared.symm (same : left.SameDeclared right) : right.SameDeclared left :=
  Eq.symm same

theorem complexAt?_declared (store : Store) (id : TypeId) :
    (store.stripped .declared).complexAt? id =
      (store.complexAt? id).map fun complex => { complex with lookups := .empty } := by
  unfold complexAt?
  rw [type?_stripped]
  rcases store.type? id with _ | ⟨name, base, flags, kind⟩
  · rfl
  · cases kind <;> rfl

theorem compositeAt?_declared (store : Store) (id : TypeId) :
    (store.stripped .declared).compositeAt? id =
      (store.compositeAt? id).map fun composite => { composite with merged := .empty } := by
  unfold compositeAt?
  rw [type?_stripped]
  rcases store.type? id with _ | ⟨name, base, flags, kind⟩
  · rfl
  · cases kind <;> rfl

namespace SameDeclared

theorem schemas_eq (same : left.SameDeclared right) :
    left.registry.schemas = right.registry.schemas :=
  (congrArg (fun store : Store => store.registry.schemas) same.eq :)

theorem registryId_eq (same : left.SameDeclared right) : left.registryId = right.registryId :=
  (congrArg Store.registryId same.eq :)

theorem complexAt? (same : left.SameDeclared right) {id : TypeId} {complex : ComplexType}
    (found : left.complexAt? id = some complex) :
    ∃ lookups, right.complexAt? id = some { complex with lookups } := by
  have equal := congrArg (Store.complexAt? · id) same.eq
  simp only [complexAt?_declared, found, Option.map_some] at equal
  rcases Option.map_eq_some_iff.mp equal.symm with ⟨other, otherFound, otherEqual⟩
  refine ⟨other.lookups, ?_⟩
  rw [otherFound]
  cases other
  cases complex
  simp_all

theorem compositeAt? (same : left.SameDeclared right) {id : TypeId}
    {composite : CompositeType} (found : left.compositeAt? id = some composite) :
    ∃ merged, right.compositeAt? id = some { composite with merged } := by
  have equal := congrArg (Store.compositeAt? · id) same.eq
  simp only [compositeAt?_declared, found, Option.map_some] at equal
  rcases Option.map_eq_some_iff.mp equal.symm with ⟨other, otherFound, otherEqual⟩
  refine ⟨other.merged, ?_⟩
  rw [otherFound]
  cases other
  cases composite
  simp_all

end SameDeclared

/-- The registered schemas declare the same fields under the same qualifiers. -/
def SchemasKept (before after : Store) : Prop :=
  ∀ id ∈ before.registry.schemas.values, ∀ complex, before.complexAt? id = some complex →
    ∃ lookups, after.complexAt? id = some { complex with lookups }

theorem SchemasKept.of_complexAt? {before after : Store}
    (same : ∀ id ∈ before.registry.schemas.values, after.complexAt? id = before.complexAt? id) :
    before.SchemasKept after :=
  fun id member complex found => ⟨complex.lookups, (same id member).trans found⟩

theorem SchemasKept.schemasComplex {before after : Store} (kept : before.SchemasKept after)
    (complex : before.SchemasComplex)
    (same : after.registry.schemas = before.registry.schemas) : after.SchemasComplex := by
  intro name id registered
  rw [same] at registered
  rcases complex name id registered with ⟨schema, found⟩
  rcases kept id (Table.mem_values_iff.mpr ⟨name, registered⟩) schema found with ⟨lookups, stays⟩
  exact ⟨_, stays⟩

theorem SameDeclared.schemasKept (same : left.SameDeclared right) : left.SchemasKept right :=
  fun _ _ _ found => same.complexAt? found

theorem SameDeclared.schemasComplex (same : left.SameDeclared right)
    (complex : left.SchemasComplex) : right.SchemasComplex :=
  same.schemasKept.schemasComplex complex same.schemas_eq.symm

/-! ## Lookups -/

/-- Whatever a complex type remembers is what it would find. -/
def LookupsAgree (store : Store) : Prop :=
  ∀ id complex, store.complexAt? id = some complex →
    ∀ name field, complex.lookups.get? name = some field → complex.find? name = some field

/-- The field that a qualified name means in the schema of its qualifier, found
without anything remembered. -/
def topLevel? (store : Store) (name : String) : Option Field :=
  let qualified := QualifiedName.parse name ""
  (store.registry.schemaFor? qualified.qualifier).bind fun schema =>
    (store.complexAt? schema).bind fun complex => complex.find? qualified.localName

/-! ## Steps -/

/-- What looking at types may do to a store. -/
inductive Observed : Store → Store → Prop
  | refl (store : Store) : Observed store store
  | trans {first second third : Store} (before : Observed first second)
      (after : Observed second third) : Observed first third
  | noted (store : Store) (notice : Notice) : Observed store (store.note notice)
  /-- A complex type looks a name up. -/
  | looked {store : Store} {id : TypeId} {complex : ComplexType}
      (found : store.complexAt? id = some complex) (name : String) :
      Observed store (store.setKind id (.complex (complex.lookUp name).1))
  /-- A composite answers the latest request. If it names schemas of the registry, the
  answer is their merger. -/
  | merged {store : Store} {id : TypeId} {composite : CompositeType} {snapshot : Snapshot}
      (found : store.compositeAt? id = some composite)
      (revision_eq : snapshot.revision = composite.requested)
      (shows : store.SchemasComplex → store.NamesSchemas composite →
        snapshot.Shows store (store.presentSchemas composite.references.keys)) :
      Observed store (store.setKind id (.composite { composite with merged := snapshot }))
  /-- The registry remembers a top-level field. -/
  | remembered {store : Store} {name : String} {field : Field}
      (correct : store.SchemasComplex → store.LookupsAgree →
        store.topLevel? name = some field) :
      Observed store (store.setRegistry { store.registry with
        fieldLookups := store.registry.fieldLookups.put name field })

end Store

theorem ComplexType.lookUp_fst (complex : ComplexType) (name : String) :
    ∃ lookups, (complex.lookUp name).1 = { complex with lookups } := by
  unfold lookUp
  cases complex.lookups.get? name with
  | some field => exact ⟨complex.lookups, rfl⟩
  | none =>
      cases complex.find? name with
      | some field => exact ⟨_, rfl⟩
      | none => exact ⟨complex.lookups, rfl⟩

theorem ComplexType.lookUp_remembers {complex : ComplexType} {name : String} {field : Field}
    (found : (complex.lookUp name).2 = some field) :
    (complex.lookUp name).1.lookups.get? name = some field := by
  unfold lookUp at found ⊢
  cases remembered : complex.lookups.get? name with
  | some other => simpa [remembered] using found
  | none =>
      cases searched : complex.find? name with
      | some other => simpa [remembered, searched, Table.get?_put] using found
      | none => simp [remembered, searched] at found

namespace Store.Observed

theorem sameDeclared {before after : Store} (observed : Observed before after) :
    before.SameDeclared after := by
  induction observed with
  | refl => rfl
  | trans _ _ first second => exact Eq.trans first second
  | noted => rfl
  | remembered => rfl
  | @looked store id complex found name =>
      rcases type_of_complexAt? found with ⟨type, typeFound, kind⟩
      rcases complex.lookUp_fst name with ⟨lookups, equal⟩
      apply Eq.symm
      apply stripped_setKind_of_eq typeFound
      rw [kind, equal]
      rfl
  | @merged store id composite snapshot found _ _ =>
      rcases type_of_compositeAt? found with ⟨type, typeFound, kind⟩
      apply Eq.symm
      apply stripped_setKind_of_eq typeFound
      rw [kind]
      rfl

theorem schemasKept {before after : Store} (observed : Observed before after) :
    before.SchemasKept after :=
  observed.sameDeclared.schemasKept

end Store.Observed

theorem Store.TypesExist.observed {before after : Store} (exist : before.TypesExist)
    (step : before.Observed after) : after.TypesExist := by
  induction step with
  | refl => exact exist
  | trans _ _ first second => exact second (first exist)
  | noted | remembered => exact exist
  | looked | merged =>
      exact exist.of_size (by rw [registry_setKind]) (Nat.le_of_eq size_setKind.symm)

/-! ## Actions that only look -/

def Action.Observes {α : Type} (action : Action α) : Prop :=
  ∀ store, Store.Observed store (action.run store).2

namespace Action

namespace Observes

variable {α β : Type}

theorem preserves {action : Action α} (observes : Observes action) (start : Store) :
    Preserves start.Observed action :=
  fun store observed => observed.trans (observes store)

theorem of_preserves {action : Action α}
    (each : ∀ start : Store, Preserves start.Observed action) : Observes action :=
  fun store => each store store (.refl store)

theorem pure (answer : α) : Observes (pure answer : Action α) := .refl

theorem bind {action : Action α} {next : α → Action β} (first : Observes action)
    (second : ∀ answer, Observes (next answer)) : Observes (action >>= next) :=
  fun store => (first store).trans (second _ _)

theorem foldlM {action : β → α → Action β} (each : ∀ result value,
    Observes (action result value)) (values : List α) (start : β) :
    Observes (values.foldlM action start) :=
  .of_preserves fun store =>
    .foldlM (fun result value => (each result value).preserves store) values start

end Observes

theorem observes_note (notice : Notice) : Observes (note notice) :=
  fun store => .noted store notice

theorem observes_mergeSchema {fieldsOf : TypeId → Action (List Field)}
    (each : ∀ id, Observes (fieldsOf id)) (snapshot : Snapshot) (entry : String × TypeRef) :
    Observes (mergeSchema fieldsOf snapshot entry) :=
  .of_preserves fun start => preserves_mergeSchema
    (fun notice => (observes_note notice).preserves start)
    (fun id => (each id).preserves start) snapshot entry

/-- Merging is one step once the schemas have been looked at. Nested mergers may have
changed what the composite shows meanwhile, but not what it refers to. -/
theorem observed_merge {depth : Nat} (each : ∀ id, Observes (fieldsWithin depth id))
    {store : Store} {id : TypeId} {composite : CompositeType}
    (found : store.compositeAt? id = some composite) :
    Store.Observed store ((merge (fieldsWithin depth) id composite).run store).2 := by
  rcases folded : (composite.references.entries.foldlM (mergeSchema (fieldsWithin depth))
    { Snapshot.empty with
      generation := composite.merged.generation + 1
      revision := composite.requested }).run store with ⟨snapshot, middle⟩
  have looked : Store.Observed store middle := by
    have eachEntry := Observes.foldlM (observes_mergeSchema each) composite.references.entries
      { Snapshot.empty with
        generation := composite.merged.generation + 1
        revision := composite.requested } store
    rwa [folded] at eachEntry
  have same := looked.sameDeclared
  rcases same.compositeAt? found with ⟨merged, stillFound⟩
  have result : ((merge (fieldsWithin depth) id composite).run store).2 =
      (middle.note (.merged snapshot.schemas.length snapshot.fields.length
        snapshot.generation)).setKind id (.composite { composite with merged := snapshot }) := by
    simp only [merge, run_bind, folded]
    rfl
  rw [result]
  refine (looked.trans (.noted middle _)).trans
    (@Store.Observed.merged _ _ { composite with merged } snapshot stillFound ?_ ?_)
  · have revision := foldlM_mergeSchema_revision (fieldsWithin depth)
      composite.references.entries { Snapshot.empty with
        generation := composite.merged.generation + 1
        revision := composite.requested } store
    rwa [folded] at revision
  · intro complex named
    have namedBefore : store.NamesSchemas composite := by
      intro entry member
      rw [same.registryId_eq]
      exact named entry member
    rcases foldlM_mergeSchema_shows (same.symm.schemasComplex complex) depth _ namedBefore
      (Snapshot.Shows.empty store _ _) with ⟨_, _, run, shows⟩
    cases folded.symm.trans run
    exact shows.of_eq_on (fun _ _ => rfl) fun _ _ => rfl

theorem observes_fieldsWithin : ∀ depth id, Observes (fieldsWithin depth id) := by
  intro depth
  induction depth with
  | zero =>
      intro id store
      unfold fieldsWithin
      simp only [run_bind, run_type?]
      split
      · exact .refl store
      · split
        · exact .refl store
        · exact .noted store _
      · exact .refl store
  | succ depth induction =>
      intro id store
      unfold fieldsWithin
      simp only [run_bind, run_type?]
      split
      · exact .refl store
      next composite kindFound =>
        split
        · exact .refl store
        · rw [run_bind]
          exact observed_merge induction (Store.compositeAt?_of_kind kindFound)
      · exact .refl store

theorem observes_fieldsOf (id : TypeId) : Observes (fieldsOf id) :=
  fun store => observes_fieldsWithin (store.types.size + 1) id store

theorem observes_snapshotOf (id : TypeId) : Observes (snapshotOf id) := by
  intro store
  simp only [snapshotOf, run_bind, run_type?]
  split
  · exact .refl store
  next composite found =>
    split
    · exact .refl store
    · rw [run_bind, run_get]
      exact observed_merge (observes_fieldsWithin _) found

theorem observes_lookUp (id : TypeId) (name : String) : Observes (lookUp id name) := by
  intro store
  simp only [lookUp, run_bind, run_type?]
  split
  next complex kindFound =>
    exact .looked (Store.complexAt?_of_kind kindFound) name
  · exact Observes.bind (observes_snapshotOf id) (fun _ => .pure _) store
  · exact .refl store

theorem observes_step (field : Field) (segment : String) (isLast : Bool) :
    Observes (step field segment isLast) :=
  .of_preserves fun start =>
    preserves_step (fun id name => (observes_lookUp id name).preserves start) field segment isLast

theorem observes_fieldAt (id : TypeId) (path : String) : Observes (fieldAt id path) :=
  .of_preserves fun start =>
    preserves_fieldAt (fun id name => (observes_lookUp id name).preserves start) id path

/-! ## Fields by path -/

theorem run_lookUp_complex {store : Store} {id : TypeId} {complex : ComplexType}
    (found : store.complexAt? id = some complex) (name : String) :
    (lookUp id name).run store =
      ((complex.lookUp name).2, store.setKind id (.complex (complex.lookUp name).1)) := by
  have kind := Store.kind_of_complexAt? found
  simp only [lookUp, run_bind, run_type?, kind]
  rfl

theorem observes_topLevelField (name : String) : Observes (topLevelField name) := by
  intro store
  simp only [topLevelField, run_bind, run_get]
  split
  · exact .refl store
  · simp only [run_bind, run_get]
    split
    · exact .refl store
    next schema schemaFound =>
      have looked := observes_lookUp schema (QualifiedName.parse name "").localName store
      rw [run_bind]
      split
      · exact looked
      next field fieldFound =>
        refine looked.trans (.remembered fun complexAfter agree => ?_)
        have same := looked.sameDeclared
        have registered := Registry.schemas_of_schemaFor? schemaFound
        rcases registered with ⟨schemaName, registered⟩
        rcases same.symm.schemasComplex complexAfter schemaName schema registered with
          ⟨complex, found⟩
        rw [run_lookUp_complex found] at fieldFound agree ⊢
        have foundAfter : ∀ known : ComplexType,
            (store.setKind schema (.complex known)).complexAt? schema = some known := by
          intro known
          rw [Store.complexAt?_setKind_complex found, if_pos rfl]
        have answer := agree schema _ (foundAfter _) _ field
          (ComplexType.lookUp_remembers fieldFound)
        simp only [Store.topLevel?, Store.registry_setKind, schemaFound, Option.bind_some,
          foundAfter, answer]

theorem observes_registeredField (path : String) : Observes (registeredField path) :=
  .of_preserves fun start => preserves_registeredField
    (fun id name => (observes_lookUp id name).preserves start)
    (fun name => (observes_topLevelField name).preserves start) path

end Action
end DocumentTypes
