import DocumentTypes.Proofs.History
import DocumentTypes.Proofs.Lasting
import Mathlib.Data.List.Induction
import Mathlib.Logic.Relation

/-! # Filing

What operations do to the tables of a registry. Most of them file one thing at most: a
type, a schema with its qualifier, or a facet, or they remove a schema. Loading a document
files many, one after the other. -/

namespace DocumentTypes

inductive Filing
  | type (id : TypeId) (name : TypeName)
  | schema (id : TypeId) (name : TypeName) (qualifier : String)
  | removal (schema : String)
  | facet (id : TypeId) (name : String)
  /-- All that was filed before is given up. -/
  | clearance

namespace Filing

/-- Whether a schema of this name is removed, if there is one. -/
def removes (name : String) : Filing → Bool
  | removal removed => removed = name
  | clearance => true
  | _ => false

/-- Whether there is another schema of this name afterwards, or none. -/
def concerns (name : String) (filing : Filing) : Bool :=
  match filing with
  | schema _ target _ => target.name = name
  | _ => filing.removes name

theorem removes_of_concerns {name : String} {filing : Filing}
    (unconcerned : filing.concerns name = false) : filing.removes name = false := by
  cases filing with
  | schema => rfl
  | type | removal | facet | clearance => exact unconcerned

end Filing

namespace Store

/-- The tables after something was filed, or nothing was. Types last in any case. -/
inductive Filed : Store → Option Filing → Store → Prop
  | nothing {before after : Store} {fieldLookups : Table String Field}
      (lasting : before.Lasting after)
      (registry_eq : after.registry = { before.registry with fieldLookups }) :
      Filed before none after
  | type {before after : Store} {id : TypeId} {type : DocumentType}
      (found : before.type? id = some type) (lasting : before.Lasting after)
      (registry_eq : after.registry = { before.registry with
        types := before.registry.types.put type.name id }) :
      Filed before (some (.type id type.name)) after
  | schema {before after : Store} {id : TypeId} {type : DocumentType} {complex : ComplexType}
      {qualifiers : Table String String} (found : before.type? id = some type)
      (isComplex : type.complex? = some complex) (lasting : before.Lasting after)
      (registry_eq : after.registry = { before.registry with
        types := before.registry.types.put type.name id
        schemas := before.registry.schemas.put type.name.name id
        qualifiers
        fieldLookups := .empty })
      (owner_eq : ∀ qualifier, qualifiers.get? qualifier =
        if complex.space.qualifier ≠ "" ∧ complex.space.qualifier = qualifier then
          some type.name.name
        else (before.registry.qualifiers.get? qualifier).filter
          (keepsQualifier [type.name.name] before.declaredQualifier? qualifier)) :
      Filed before (some (.schema id type.name complex.space.qualifier)) after
  | removal {before after : Store} {schema home : String} {qualifiers : Table String String}
      (lasting : before.Lasting after)
      (registry_eq : after.registry = { before.registry with
        types := before.registry.types.erase ⟨home, schema⟩
        schemas := before.registry.schemas.erase schema
        qualifiers
        fieldLookups := .empty })
      (owner_eq : ∀ qualifier, qualifiers.get? qualifier =
        (before.registry.qualifiers.get? qualifier).filter
          (keepsQualifier [schema] before.declaredQualifier? qualifier)) :
      Filed before (some (.removal schema)) after
  | facet {before after : Store} {name : String} (lasting : before.Lasting after)
      (registry_eq : after.registry = { before.registry with
        facets := before.registry.facets.put name before.nextId
        types := before.registry.types.put ⟨facetSchema, name⟩ before.nextId }) :
      Filed before (some (.facet before.nextId name)) after
  | clearance {before after : Store} (lasting : before.Lasting after)
      (registry_eq : after.registry = .empty) : Filed before (some .clearance) after

theorem Filed.lasting {before after : Store} {filing? : Option Filing}
    (filed : before.Filed filing? after) : before.Lasting after := by
  cases filed <;> assumption

theorem Filed.same {before after : Store} (lasting : before.Lasting after)
    (registry_eq : after.registry = before.registry) : before.Filed none after :=
  @Filed.nothing before after before.registry.fieldLookups lasting registry_eq

theorem Filed.refl (store : Store) : store.Filed none store := .same (.refl store) rfl

theorem Filed.setKind {store : Store} {id : TypeId} {type : DocumentType} {kind : TypeKind}
    (found : store.type? id = some type) (same : kind.core = type.kind.core) :
    store.Filed none (store.setKind id kind) :=
  .same (.setKind found same) registry_setKind

theorem Filed.observed {before after : Store} (observed : before.Observed after) :
    before.Filed none after := by
  refine @Filed.nothing before after after.registry.fieldLookups observed.lasting ?_
  have same := congrArg Store.registry observed.sameDeclared.eq
  change { before.registry with fieldLookups := .empty } =
    { after.registry with fieldLookups := .empty } at same
  rw [show after.registry = { ({ after.registry with fieldLookups := .empty } : Registry) with
    fieldLookups := after.registry.fieldLookups } from rfl, ← same]

theorem Filed.registered {before after : Store} {filing? : Option Filing}
    {name : String} {id : TypeId} (filed : before.Filed filing? after)
    (registered : after.registry.schemas.get? name = some id) :
    (∃ type qualifier, filing? = some (.schema id type.name qualifier) ∧
      before.type? id = some type ∧ type.name.name = name) ∨
    before.registry.schemas.get? name = some id ∧
      ∀ filing ∈ filing?, filing.concerns name = false := by
  cases filed with
  | nothing _ registry_eq | type _ _ registry_eq | facet _ registry_eq =>
      rw [registry_eq] at registered
      exact .inr ⟨registered, by rintro _ ⟨⟩ <;> rfl⟩
  | @schema _ present type complex qualifiers found _ _ registry_eq =>
      rw [registry_eq] at registered
      change (before.registry.schemas.put type.name.name present).get? name = some id at registered
      by_cases same : type.name.name = name
      · rw [Table.get?_put, if_pos same] at registered
        cases registered
        exact .inl ⟨type, complex.space.qualifier, rfl, found, same⟩
      · rw [Table.get?_put, if_neg same] at registered
        refine .inr ⟨registered, ?_⟩
        rintro _ ⟨⟩
        exact decide_eq_false same
  | @removal _ schema home qualifiers _ registry_eq =>
      rw [registry_eq] at registered
      change (before.registry.schemas.erase schema).get? name = some id at registered
      by_cases same : schema = name
      · rw [Table.get?_erase, if_pos same] at registered
        cases registered
      · rw [Table.get?_erase, if_neg same] at registered
        refine .inr ⟨registered, ?_⟩
        rintro _ ⟨⟩
        exact decide_eq_false same
  | clearance _ registry_eq =>
      rw [registry_eq] at registered
      cases registered

/-- Something was filed, several times, or not at all. -/
def Refiled : Store → Store → Prop :=
  Relation.ReflTransGen fun before after => ∃ filing?, Filed before filing? after

/-- An invariant that lasts through everything that may be filed lasts for ever. -/
theorem Refiled.keeps {Invariant : Store → Prop}
    (each : ∀ {before after filing?}, Filed before filing? after → Invariant before →
      Invariant after) {before after : Store} (refiled : before.Refiled after)
    (holds : Invariant before) : Invariant after := by
  induction refiled with
  | refl => exact holds
  | tail _ step induction =>
      rcases step with ⟨filing?, filed⟩
      exact each filed induction

theorem Refiled.lasting {before after : Store} (refiled : before.Refiled after) :
    before.Lasting after := by
  induction refiled with
  | refl => exact .refl before
  | tail _ step induction =>
      rcases step with ⟨filing?, filed⟩
      exact induction.trans filed.lasting

end Store

namespace Action

open Store (Filed Refiled)

/-! ## Registering -/

theorem filed_build (blueprint : Blueprint) (store : Store) :
    store.Filed none ((build blueprint).run store).2 := by
  rcases run_build blueprint store with ⟨notices, run⟩
  rw [run]
  exact .same ((Store.Lasting.built store blueprint).trans (.of_types rfl)) rfl

theorem filed_attemptBuild (blueprint : Blueprint) (store : Store) :
    store.Filed none ((Attempt.build blueprint).run.run store).2 := by
  unfold Attempt.build
  split
  · exact filed_build blueprint store
  · exact .refl store

theorem filed_registerType (id : TypeId) (store : Store) :
    store.Filed ((store.type? id).map fun type => .type id type.name)
      ((registerType id).run store).2 := by
  cases found : store.type? id with
  | none =>
      unfold registerType
      rw [run_bind, run_type?, found]
      exact .refl store
  | some type =>
      rcases run_registerType found with ⟨notices, run⟩
      rw [run]
      exact .type found (.of_types rfl) rfl

theorem filed_registerSchema (id : TypeId) (store : Store) :
    store.Filed ((store.type? id).bind fun type => type.complex?.map fun complex =>
      .schema id type.name complex.space.qualifier)
      ((Attempt.registerSchema id).run.run store).2 := by
  unfold Attempt.registerSchema
  rw [Attempt.run_bind_type?]
  rcases found : store.type? id with _ | ⟨name, base, flags, kind⟩
  · exact .refl store
  · cases kind with
    | complex complex =>
        rcases run_registerComplex id name complex.space store with
          ⟨types, notices, qualifiers, run, -, asked, owner_eq⟩
        change store.Filed _ ((registerComplex id name complex.space).run store).2
        rw [run]
        exact .schema found rfl (Store.Lasting.asked asked) rfl owner_eq
    | primitive | simple | composite | list => exact .refl store

theorem filed_unregisterSchema (schema : String) (store : Store) :
    store.Filed (if store.registry.schemas.contains schema then some (.removal schema) else none)
      ((unregisterSchema schema).run store).2 := by
  unfold Table.contains
  cases registered : store.registry.schemas.get? schema with
  | none =>
      unfold unregisterSchema
      rw [run_bind, run_get, registered]
      exact .refl store
  | some id =>
      rcases run_unregisterSchema registered with ⟨types, notices, qualifiers, run, -, asked, owner_eq⟩
      rw [run]
      exact .removal (Store.Lasting.asked asked) rfl owner_eq

theorem filed_registerFacet (name : String) (schemas : List String) (store : Store) :
    store.Filed (some (.facet store.nextId name)) ((registerFacet name schemas).run store).2 := by
  rcases run_registerFacet name schemas store with ⟨notices, run⟩
  rw [run]
  exact .facet ((Store.Lasting.built store _).trans (.of_types rfl)) rfl

/-! ## Changing types -/

theorem filed_declareField (id : TypeId) (declaration : FieldDeclaration) (store : Store) :
    store.Filed none ((declareField id declaration).run.run store).2 := by
  unfold declareField
  rw [Attempt.run_bind_type?]
  rcases found : store.type? id with _ | ⟨name, base, flags, kind⟩
  · exact .refl store
  · cases kind with
    | complex complex =>
        dsimp only
        split
        · let late := store.note (.lateField (complex.declare id name declaration).2.name)
          have noted : store.Lasting late := .of_types rfl
          exact .same (noted.trans (@Store.Lasting.setKind late id _ _ found rfl))
            Store.registry_setKind
        · exact .setKind found rfl
    | primitive | simple | composite | list => exact .refl store

theorem filed_setComposite {store : Store} {id : TypeId} {composite : CompositeType}
    (found : store.compositeAt? id = some composite) (next : CompositeType) :
    store.Filed none (store.setKind id (.composite next)) := by
  rcases Store.type_of_compositeAt? found with ⟨type, typeFound, kind⟩
  exact .setKind typeFound (by rw [kind]; rfl)

theorem filed_addSchema (id : TypeId) (reference : TypeRef) (store : Store) :
    store.Filed none ((addSchema id reference).run store).2 := by
  unfold addSchema
  cases reference.target? with
  | none => exact .same (.of_types rfl) rfl
  | some target =>
      dsimp only
      rw [run_bind, run_type?]
      cases found : (store.type? id).bind DocumentType.composite? with
      | none => exact .refl store
      | some composite => exact filed_setComposite found _

theorem filed_invalidate (id : TypeId) (store : Store) :
    store.Filed none ((invalidate id).run store).2 := by
  unfold invalidate
  rw [run_bind, run_type?]
  cases found : (store.type? id).bind DocumentType.composite? with
  | none => exact .refl store
  | some composite => exact filed_setComposite found _

/-! ## Sequences -/

def Files {α : Type} (action : Action α) : Prop := ∀ store, Refiled store (action.run store).2

theorem Files.preserves {α : Type} {action : Action α} (files : Files action) (origin : Store) :
    Preserves (Refiled origin) action :=
  fun store reached => Relation.ReflTransGen.trans reached (files store)

theorem Files.of_filed {α : Type} {action : Action α} {filing? : Store → Option Filing}
    (filed : ∀ store : Store, store.Filed (filing? store) (action.run store).2) : Files action :=
  fun store => .single ⟨filing? store, filed store⟩

theorem files_registerPrimitives : Files registerPrimitives := fun store =>
  Preserves.forM _ (fun kind _ => .bind ((Files.of_filed (filed_build (.primitive kind))).preserves
    store) fun id => (Files.of_filed (filed_registerType id)).preserves store) store .refl

theorem files_dropRegistry : Files dropRegistry := by
  intro store
  unfold dropRegistry
  rw [run_bind, run_modify]
  have cleared : store.Filed (some .clearance) { store with
      registry := .empty
      registryId := ⟨store.registryId.number + 1⟩ } := .clearance (.of_types rfl) rfl
  exact Relation.ReflTransGen.head ⟨_, cleared⟩ (files_registerPrimitives _)

theorem keptByEntering_refiled (origin : Store) : KeptByEntering (Refiled origin) where
  noted _ _ reached := .tail reached ⟨none, .same (.of_types rfl) rfl⟩
  build blueprint := (Files.of_filed (filed_attemptBuild blueprint)).preserves origin
  registerType id := (Files.of_filed (filed_registerType id)).preserves origin
  registerSchema id := (Files.of_filed (filed_registerSchema id)).preserves origin
  registerFacet name schemas := (Files.of_filed (filed_registerFacet name schemas)).preserves origin

theorem files_load (document : SchemaDocument) : Files (Attempt.load document).run :=
  fun store => (keptByEntering_refiled store).load document store .refl

theorem files_loadText (text : String) : Files (Attempt.loadText text).run :=
  fun store => Preserves.loadText (keptByEntering_refiled store).load text store .refl

theorem files_loadFile (content : Option (List UInt8)) : Files (Attempt.loadFile content).run :=
  fun store => Preserves.loadFile (keptByEntering_refiled store).load content store .refl

end Action

/-! ## Operations -/

namespace Operation

def filesOnce : Operation → Bool
  | load _ | loadText _ | loadFile _ | dropRegistry => false
  | _ => true

def filing? (store : Store) : Operation → Option Filing
  | registerType id => (store.type? id).map fun type => .type id type.name
  | registerSchema id => (store.type? id).bind fun type => type.complex?.map fun complex =>
    .schema id type.name complex.space.qualifier
  | unregisterSchema schema =>
    if store.registry.schemas.contains schema then some (.removal schema) else none
  | registerFacet name _ => some (.facet store.nextId name)
  | _ => none

theorem filed_perform {operation : Operation} (once : operation.filesOnce = true)
    (store : Store) : store.Filed (operation.filing? store) (operation.perform store) := by
  cases operation with
  | build blueprint => exact Action.filed_attemptBuild blueprint store
  | declareField id declaration => exact Action.filed_declareField id declaration store
  | registerType id => exact Action.filed_registerType id store
  | registerSchema id => exact Action.filed_registerSchema id store
  | unregisterSchema schema => exact Action.filed_unregisterSchema schema store
  | registerFacet name schemas => exact Action.filed_registerFacet name schemas store
  | addSchema id reference => exact Action.filed_addSchema id reference store
  | invalidate id => exact Action.filed_invalidate id store
  | registeredField path => exact .observed (Action.observes_registeredField path store)
  | fieldAt id path => exact .observed (Action.observes_fieldAt id path store)
  | lookUp id name => exact .observed (Action.observes_lookUp id name store)
  | fieldsOf id => exact .observed (Action.observes_fieldsOf id store)
  | snapshotOf id => exact .observed (Action.observes_snapshotOf id store)
  | hold holdings => exact .same (.of_types rfl) rfl
  | load | loadText | loadFile | dropRegistry => cases once

theorem refiled_perform (operation : Operation) (store : Store) :
    store.Refiled (operation.perform store) := by
  cases once : operation.filesOnce with
  | true => exact .single ⟨_, filed_perform once store⟩
  | false =>
      cases operation with
      | load document => exact Action.files_load document store
      | loadText text => exact Action.files_loadText text store
      | loadFile content => exact Action.files_loadFile content store
      | dropRegistry => exact Action.files_dropRegistry store
      | _ => cases once

end Operation

/-! ## Histories -/

namespace Store

/-- The store after a list of operations, begun with a fresh registry. -/
def following (operations : List Operation) : Store :=
  operations.foldl (fun store operation => operation.perform store) .initial

theorem following_concat (operations : List Operation) (operation : Operation) :
    following (operations ++ [operation]) = operation.perform (following operations) := by
  rw [following, List.foldl_append]
  rfl

theorem refiled_following (operations : List Operation) :
    Store.blank.Refiled (following operations) := by
  induction operations using List.reverseRecOn with
  | nil => exact Action.files_registerPrimitives .blank
  | append_singleton operations operation induction =>
      rw [following_concat]
      exact Relation.ReflTransGen.trans induction (operation.refiled_perform _)

end Store

/-- What is filed by operations one after the other, each filing one thing at most. -/
def Operation.filings : List Operation → Store → List Filing
  | [], _ => []
  | operation :: rest, store =>
    (operation.filing? store).toList ++ filings rest (operation.perform store)

theorem Operation.filings_append (first second : List Operation) (store : Store) :
    filings (first ++ second) store = filings first store ++
      filings second (first.foldl (fun store operation => operation.perform store) store) := by
  induction first generalizing store with
  | nil => rfl
  | cons operation rest induction =>
      rw [List.cons_append, filings, filings, induction, List.append_assoc]
      rfl

def Store.filingsOf (operations : List Operation) : List Filing :=
  Operation.filings operations .initial

theorem Store.filingsOf_concat (operations : List Operation) (operation : Operation) :
    filingsOf (operations ++ [operation]) =
      filingsOf operations ++ (operation.filing? (following operations)).toList := by
  rw [filingsOf, Operation.filings_append]
  simp [Operation.filings, filingsOf, following]

theorem Store.traced_following {Traced : Store → List Filing → Prop}
    (initial : Traced .initial [])
    (each : ∀ {before after filing? filings}, Filed before filing? after →
      Traced before filings → Traced after (filings ++ filing?.toList))
    {operations : List Operation}
    (single : ∀ operation ∈ operations, operation.filesOnce = true) :
    Traced (following operations) (filingsOf operations) := by
  induction operations using List.reverseRecOn with
  | nil => exact initial
  | append_singleton operations operation induction =>
      have once := single operation (by simp)
      have traced := induction fun early member => single early (by simp [member])
      rw [following_concat, filingsOf_concat]
      exact each (Operation.filed_perform once _) traced

theorem filterMap_append_toList {α β : Type} (list : List α) (last? : Option α)
    (f : α → Option β) :
    (list ++ last?.toList).filterMap f = list.filterMap f ++ (last?.bind f).toList := by
  cases last? with
  | none => simp
  | some last => cases answer : f last <;> simp [answer]

end DocumentTypes
