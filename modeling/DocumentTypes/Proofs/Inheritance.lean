import DocumentTypes.Proofs.Numbering
import DocumentTypes.Proofs.OrderlyTypes

/-! # Inheritance

A new complex type takes over the fields of its base as they are. From then on each of the two
goes its own way: what fields a type has is told by those that it began with and by the
declarations on it, whatever else happens in between. -/

namespace DocumentTypes

/-! ## Declarations -/

namespace FieldDeclaration

/-- The name that a field gets from a type with this namespace. -/
def nameIn (declaration : FieldDeclaration) (space : Namespace) : QualifiedName :=
  .parse declaration.name space.qualifier

/-- The field that a type makes of a declaration. It is the declaring type of this field. -/
def declaredBy (declaration : FieldDeclaration) (id : TypeId) (typeName : TypeName)
    (space : Namespace) (serial : Nat) : Field where
  owner := id
  serial
  ownerName := typeName
  name := declaration.nameIn space
  valueType := declaration.valueType
  defaultText := declaration.defaultText
  flags := declaration.flags
  minOccurs := declaration.minOccurs
  maxOccurs := declaration.maxOccurs

/-- The fields that a type makes of declarations, one after the other, with their names. -/
def allDeclaredBy (declarations : List FieldDeclaration) (id : TypeId) (typeName : TypeName)
    (space : Namespace) (firstSerial : Nat) : List (QualifiedName × Field) :=
  declarations.mapIdx fun position declaration => (declaration.nameIn space,
    declaration.declaredBy id typeName space (firstSerial + position))

theorem names_allDeclaredBy (declarations : List FieldDeclaration) (id : TypeId)
    (typeName : TypeName) (space : Namespace) (firstSerial : Nat) :
    (allDeclaredBy declarations id typeName space firstSerial).map Prod.fst =
      declarations.map (·.nameIn space) := by
  refine List.ext_getElem? fun position => ?_
  rw [allDeclaredBy, List.getElem?_map, List.getElem?_mapIdx, List.getElem?_map, Option.map_map]
  rfl

end FieldDeclaration

namespace ComplexType

variable {start : ComplexType} {id : TypeId} {typeName : TypeName}
  {declarations : List FieldDeclaration}

def names (complex : ComplexType) : List QualifiedName := complex.fields.values.map Field.name

structure DeclaredOver (start : ComplexType) (id : TypeId) (typeName : TypeName)
    (declarations : List FieldDeclaration) (complex : ComplexType) : Prop where
  keyed : complex.Keyed
  nodup : complex.names.Nodup
  /-- New names come after the old ones, each of them once, as they first appear. -/
  names_eq : complex.names = start.names ++
    ((declarations.map (·.nameIn start.space)).filter (· ∉ start.names)).eraseDups
  /-- A name means the latest field that was declared under it, or else the old one. -/
  field_eq : ∀ name, complex.fields.get? name =
    (Entries.last? (FieldDeclaration.allDeclaredBy declarations id typeName start.space
      start.declared) name).or (start.fields.get? name)

theorem declareAll_concat (start : ComplexType) (declarations : List FieldDeclaration)
    (declaration : FieldDeclaration) :
    start.declareAll id typeName (declarations ++ [declaration]) =
      ((start.declareAll id typeName declarations).declare id typeName declaration).1 :=
  List.foldl_append

theorem declared_declareAll : (start.declareAll id typeName declarations).declared =
    start.declared + declarations.length := by
  induction declarations using List.reverseRecOn with
  | nil => rfl
  | append_singleton earlier declaration induction =>
      rw [declareAll_concat, List.length_append, List.length_singleton, ← Nat.add_assoc, ← induction]
      rfl

theorem fields_declareAll : (start.declareAll id typeName declarations).fields =
    start.fields.putAll (FieldDeclaration.allDeclaredBy declarations id typeName start.space
      start.declared) := by
  induction declarations using List.reverseRecOn with
  | nil => rfl
  | append_singleton earlier declaration induction =>
      rw [declareAll_concat, FieldDeclaration.allDeclaredBy, List.mapIdx_concat,
        Table.putAll_append]
      change (start.declareAll id typeName earlier).fields.put
        (declaration.nameIn (start.declareAll id typeName earlier).space)
        (declaration.declaredBy id typeName (start.declareAll id typeName earlier).space
          (start.declareAll id typeName earlier).declared) = _
      rw [induction, space_declareAll, declared_declareAll]
      rfl

theorem Keyed.declaredOver (keyed : start.Keyed) (id : TypeId) (typeName : TypeName)
    (declarations : List FieldDeclaration) (lookups : Table String Field) :
    start.DeclaredOver id typeName declarations
      { start.declareAll id typeName declarations with lookups } := by
  have declared := keyed.declareAll id typeName declarations
  refine ⟨declared, declared.nodup, ?_, fun name => ?_⟩
  · change (start.declareAll id typeName declarations).names = _
    rw [names, declared.names_eq, fields_declareAll, Table.keys_putAll,
      FieldDeclaration.names_allDeclaredBy, names, keyed.names_eq]
  · change (start.declareAll id typeName declarations).fields.get? name = _
    rw [fields_declareAll, Table.get?_putAll]

theorem DeclaredOver.get?_of_undeclared {complex : ComplexType} {name : QualifiedName}
    (declared : start.DeclaredOver id typeName declarations complex)
    (undeclared : name ∉ declarations.map (·.nameIn start.space)) :
    complex.fields.get? name = start.fields.get? name := by
  have absent : Entries.last? (FieldDeclaration.allDeclaredBy declarations id typeName start.space
      start.declared) name = none := by
    rw [← Option.not_isSome_iff_eq_none, Entries.last?_isSome_iff,
      FieldDeclaration.names_allDeclaredBy]
    exact undeclared
  rw [declared.field_eq, absent, Option.none_or]

end ComplexType

/-! ## Other events -/

namespace Store

variable {before middle after store : Store} {id : TypeId} {complex : ComplexType}

/-- Complex types differ at most in what they remember. -/
def ComplexTypesKept (before after : Store) : Prop :=
  ∀ id complex, before.complexAt? id = some complex →
    ∃ lookups, after.complexAt? id = some { complex with lookups }

namespace ComplexTypesKept

theorem of_complexAt? (same : ∀ id complex, before.complexAt? id = some complex →
    after.complexAt? id = some complex) : before.ComplexTypesKept after :=
  fun id complex found => ⟨complex.lookups, same id complex found⟩

theorem refl (store : Store) : store.ComplexTypesKept store := of_complexAt? fun _ _ found => found

theorem trans (first : before.ComplexTypesKept middle) (second : middle.ComplexTypesKept after) :
    before.ComplexTypesKept after := by
  intro id complex found
  rcases first id complex found with ⟨known, between⟩
  rcases second id _ between with ⟨later, last⟩
  exact ⟨later, last⟩

theorem consulted (step : before.Consulted after) : before.ComplexTypesKept after :=
  fun _ _ found => step.sameDeclared.complexAt? found

theorem observed (step : before.Observed after) : before.ComplexTypesKept after :=
  consulted (.observed step)

theorem asked {schema : String} {facets : List TypeId} {registry : Registry}
    (asked : (before.setRegistry registry).Asked schema facets after) :
    before.ComplexTypesKept after :=
  of_complexAt? fun id _ found => (asked.complexAt?_eq id).trans found

theorem setComposite {composite other : CompositeType}
    (found : store.compositeAt? id = some composite) :
    store.ComplexTypesKept (store.setKind id (.composite other)) :=
  of_complexAt? fun place _ present => (complexAt?_setKind_composite found place).trans present

end ComplexTypesKept

end Store

namespace Action

open Store (ComplexTypesKept)

variable {store : Store} {id : TypeId} {complex : ComplexType}

/-- An action declares no field on a type that exists. -/
def KeepsComplexTypes {α : Type} (action : Action α) : Prop :=
  ∀ store : Store, store.ComplexTypesKept (action.run store).2

theorem KeepsComplexTypes.preserves {α : Type} {action : Action α}
    (keeps : KeepsComplexTypes action) (origin : Store) :
    Preserves origin.ComplexTypesKept action :=
  fun store kept => kept.trans (keeps store)

theorem keepsComplexTypes_build (blueprint : Blueprint) :
    KeepsComplexTypes (build blueprint) := by
  intro store
  rcases run_build blueprint store with ⟨notices, run⟩
  rw [run]
  exact .of_complexAt? fun _ _ found => Store.complexAt?_push_of_some found

theorem keepsComplexTypes_attemptBuild (blueprint : Blueprint) :
    KeepsComplexTypes (Attempt.build blueprint).run := by
  intro store
  unfold Attempt.build
  split
  · exact keepsComplexTypes_build blueprint store
  · exact .refl store

theorem keepsComplexTypes_registerType (id : TypeId) : KeepsComplexTypes (registerType id) := by
  intro store
  cases found : store.type? id with
  | none =>
      unfold registerType
      rw [run_bind, run_type?, found]
      exact .refl store
  | some type =>
      rcases run_registerType found with ⟨notices, run⟩
      rw [run]
      exact .refl store

theorem keepsComplexTypes_registerSchema (id : TypeId) :
    KeepsComplexTypes (Attempt.registerSchema id).run := by
  intro store
  unfold Attempt.registerSchema
  rw [Attempt.run_bind_type?]
  rcases store.type? id with _ | ⟨name, base, flags, kind⟩
  · exact .refl store
  · cases kind with
    | complex complex =>
        rcases asked_registerComplex id name complex.space store with ⟨qualifiers, asked⟩
        exact .asked asked
    | primitive | simple | composite | list => exact .refl store

theorem keepsComplexTypes_unregisterSchema (schema : String) :
    KeepsComplexTypes (unregisterSchema schema) := by
  intro store
  rcases asked_unregisterSchema schema store with unchanged | ⟨name, qualifiers, asked⟩
  · rw [unchanged]
    exact .refl store
  · exact .asked asked

theorem keepsComplexTypes_registerFacet (name : String) (schemas : List String) :
    KeepsComplexTypes (registerFacet name schemas) := by
  intro store
  rcases run_registerFacet name schemas store with ⟨notices, run⟩
  rw [run]
  exact .of_complexAt? fun _ _ found => Store.complexAt?_push_of_some found

theorem keepsComplexTypes_addSchema (id : TypeId) (reference : TypeRef) :
    KeepsComplexTypes (addSchema id reference) := by
  intro store
  unfold addSchema
  cases reference.target? with
  | none => exact .refl store
  | some target =>
      dsimp only
      rw [run_bind, run_type?]
      cases found : (store.type? id).bind DocumentType.composite? with
      | none => exact .refl store
      | some composite => exact .setComposite found

theorem keepsComplexTypes_invalidate (id : TypeId) : KeepsComplexTypes (invalidate id) := by
  intro store
  unfold invalidate
  rw [run_bind, run_type?]
  cases found : (store.type? id).bind DocumentType.composite? with
  | none => exact .refl store
  | some composite => exact .setComposite found

theorem keepsComplexTypes_dropRegistry : KeepsComplexTypes dropRegistry := by
  intro store
  unfold dropRegistry registerPrimitives
  rw [run_bind, run_modify]
  refine Preserves.forM _ (fun kind _ => ?_) _ (.refl store)
  exact .bind ((keepsComplexTypes_build (.primitive kind)).preserves store)
    fun id => (keepsComplexTypes_registerType id).preserves store

theorem keptByEntering_complexTypes (origin : Store) :
    KeptByEntering origin.ComplexTypesKept where
  noted _ _ kept := kept
  build blueprint := (keepsComplexTypes_attemptBuild blueprint).preserves origin
  registerType id := (keepsComplexTypes_registerType id).preserves origin
  registerSchema id := (keepsComplexTypes_registerSchema id).preserves origin
  registerFacet name schemas := (keepsComplexTypes_registerFacet name schemas).preserves origin

/-! ## Declaring -/

theorem run_declareField_complex {type : DocumentType} (found : store.type? id = some type)
    (isComplex : type.complex? = some complex) (declaration : FieldDeclaration) :
    ∃ notices, ((declareField id declaration).run.run store).2 =
      { store.setKind id (.complex (complex.declare id type.name declaration).1) with
        notices } := by
  rcases type with ⟨name, base, flags, kind⟩
  cases kind <;> cases isComplex
  unfold declareField
  rw [Attempt.run_bind_type?, found]
  dsimp only
  split
  · exact ⟨_, Store.setKind_notices store id _ _⟩
  · exact ⟨_, rfl⟩

theorem run_declareField_other (other : store.complexAt? id = none)
    (declaration : FieldDeclaration) :
    ((declareField id declaration).run.run store).2 = store := by
  unfold declareField
  rw [Attempt.run_bind_type?]
  rcases found : store.type? id with _ | ⟨name, base, flags, kind⟩
  · rfl
  · cases kind with
    | complex complex => simp [Store.complexAt?, found, DocumentType.complex?] at other
    | primitive | simple | composite | list => rfl

end Action

/-! ## Runs -/

theorem Operation.complexTypesKept_perform {operation : Operation}
    (quiet : ∀ id declaration, operation ≠ .declareField id declaration) (store : Store) :
    store.ComplexTypesKept (operation.perform store) := by
  have loads := (Action.keptByEntering_complexTypes store).load
  cases operation with
  | declareField id declaration => exact absurd rfl (quiet id declaration)
  | build blueprint => exact Action.keepsComplexTypes_attemptBuild blueprint store
  | registerType id => exact Action.keepsComplexTypes_registerType id store
  | registerSchema id => exact Action.keepsComplexTypes_registerSchema id store
  | unregisterSchema schema => exact Action.keepsComplexTypes_unregisterSchema schema store
  | registerFacet name schemas => exact Action.keepsComplexTypes_registerFacet name schemas store
  | load document => exact loads document store (.refl store)
  | loadText text => exact Action.Preserves.loadText loads text store (.refl store)
  | loadFile content => exact Action.Preserves.loadFile loads content store (.refl store)
  | addSchema id reference => exact Action.keepsComplexTypes_addSchema id reference store
  | invalidate id => exact Action.keepsComplexTypes_invalidate id store
  | registeredField path => exact .observed (Action.observes_registeredField path store)
  | fieldAt id path => exact .observed (Action.observes_fieldAt id path store)
  | lookUp id name => exact .observed (Action.observes_lookUp id name store)
  | fieldsOf id => exact .observed (Action.observes_fieldsOf id store)
  | snapshotOf id => exact .observed (Action.observes_snapshotOf id store)
  | hold => exact .refl store
  | dropRegistry => exact Action.keepsComplexTypes_dropRegistry store

namespace Event

variable {store : Store} {id : TypeId} {complex : ComplexType} {typeName : TypeName}

def declarationOn? (id : TypeId) : Event → Option FieldDeclaration
  | .operate (.declareField place declaration) => if place = id then some declaration else none
  | _ => none

/-- The fields that are declared on a type in the course of a run. -/
def declarationsOn (id : TypeId) (events : List Event) : List FieldDeclaration :=
  events.filterMap (declarationOn? id)

theorem declarationsOn_concat (id : TypeId) (events : List Event) (event : Event) :
    declarationsOn id (events ++ [event]) =
      declarationsOn id events ++ (event.declarationOn? id).toList := by
  rw [declarationsOn, List.filterMap_append]
  cases declared : event.declarationOn? id <;> simp [declarationsOn, declared]

theorem name_perform (event : Event)
    (named : (store.type? id).map DocumentType.name = some typeName) :
    ((event.perform store).type? id).map DocumentType.name = some typeName := by
  cases event with
  | ask query =>
      have same := congrArg (Store.type? · id) (query.consulted_perform store).sameDeclared.eq
      have names := congrArg (Option.map DocumentType.name) same
      simp only [Store.type?_stripped, Option.map_map] at names
      exact names.symm.trans named
  | operate operation =>
      rcases Option.map_eq_some_iff.mp named with ⟨type, found, rfl⟩
      rcases (operation.lasting_perform store).old id type found with ⟨later, laterFound, core⟩
      rw [perform, laterFound, Option.map_some]
      exact congrArg some (congrArg DocumentType.name core :)

/-- What an event does to a complex type, but for what the type remembers. -/
theorem complexAt?_perform (event : Event) (found : store.complexAt? id = some complex)
    (named : (store.type? id).map DocumentType.name = some typeName) :
    ∃ lookups, (event.perform store).complexAt? id =
      some { complex.declareAll id typeName (event.declarationOn? id).toList with lookups } := by
  cases event with
  | ask query => exact Store.ComplexTypesKept.consulted (query.consulted_perform store) id _ found
  | operate operation =>
      by_cases quiet : ∀ place declaration, operation ≠ .declareField place declaration
      · have silent : (operate operation).declarationOn? id = none := by
          cases operation <;> first | rfl | exact absurd rfl (quiet _ _)
        rw [silent]
        exact Operation.complexTypesKept_perform quiet store id _ found
      · push Not at quiet
        rcases quiet with ⟨place, declaration, rfl⟩
        by_cases same : place = id
        · subst same
          rcases Option.map_eq_some_iff.mp named with ⟨type, typeFound, rfl⟩
          have isComplex : type.complex? = some complex := by
            rwa [Store.complexAt?, typeFound] at found
          rcases Action.run_declareField_complex typeFound isComplex declaration with
            ⟨notices, run⟩
          refine ⟨.empty, ?_⟩
          rw [perform, Operation.perform, run, declarationOn?, if_pos rfl]
          exact (Store.complexAt?_setKind_complex found place).trans (if_pos rfl)
        · -- The field is declared on another type, if that is complex at all.
          rw [declarationOn?, if_neg same]
          refine ⟨complex.lookups, ?_⟩
          cases elsewhere : store.complexAt? place with
          | none =>
              rw [perform, Operation.perform, Action.run_declareField_other elsewhere]
              exact found
          | some other =>
              rcases Store.type_of_complexAt? elsewhere with ⟨type, typeFound, kind⟩
              have isComplex : type.complex? = some other := by
                rw [DocumentType.complex?, kind]
              rcases Action.run_declareField_complex typeFound isComplex declaration with
                ⟨notices, run⟩
              rw [perform, Operation.perform, run]
              exact ((Store.complexAt?_setKind_complex elsewhere id).trans
                (if_neg (Ne.symm same))).trans found

end Event

namespace Store

variable {store : Store} {id : TypeId} {complex : ComplexType} {typeName : TypeName}

/-- What a run does to a complex type: the declarations on it, and nothing else. -/
theorem complexAt?_after (found : store.complexAt? id = some complex)
    (named : (store.type? id).map DocumentType.name = some typeName) (events : List Event) :
    ∃ lookups, (store.after events).complexAt? id =
      some { complex.declareAll id typeName (Event.declarationsOn id events) with lookups } := by
  -- From the last event on, because declarations are numbered from the first one.
  induction events using List.reverseRecOn with
  | nil => exact ⟨complex.lookups, found⟩
  | append_singleton earlier event induction =>
      rcases induction with ⟨known, still⟩
      have stillNamed := after_keeps
        (fun store => (store.type? id).map DocumentType.name = some typeName)
        (fun event => event.name_perform) earlier named
      rcases event.complexAt?_perform still stillNamed with ⟨lookups, later⟩
      refine ⟨lookups, ?_⟩
      rw [after, List.foldl_append]
      refine later.trans ?_
      rw [Event.declarationsOn_concat]
      cases event.declarationOn? id with
      | none =>
          rw [Option.toList_none, List.append_nil]
          rfl
      | some declaration =>
          rw [Option.toList_some, ComplexType.declareAll_concat]
          rfl

theorem complexAt?_perform_build {base : TypeRef} {super : TypeId}
    (resolved : store.resolve base = some super) (found : store.complexAt? super = some complex)
    (name : TypeName) (flags : UInt16) (space : Namespace) (unstructured : Option Bool)
    (fields : List FieldDeclaration) :
    let start : ComplexType := { space, unstructured, fields := complex.fields }
    let built := (Event.operate
      (.build ⟨name, base, flags, .complex space unstructured fields⟩)).perform store
    built.complexAt? store.nextId = some (start.declareAll store.nextId name fields) ∧
      (built.type? store.nextId).map DocumentType.name = some name := by
  intro start built
  let blueprint : Blueprint := ⟨name, base, flags, .complex space unstructured fields⟩
  have complete : blueprint.isComplete = true := rfl
  rcases Attempt.run_build_ok complete store with ⟨notices, run⟩
  have built_eq : built = { store.push (blueprint.built store) with notices } :=
    congrArg Prod.snd run
  have inherited : Blueprint.inheritedFields store base = complex.fields := by
    rw [complexAt?] at found
    rw [Blueprint.inheritedFields, resolved, Option.bind_some, found]
  rw [built_eq]
  constructor
  · refine (complexAt?_push _ _).trans ((if_pos rfl).trans ?_)
    exact congrArg (fun fields' : Table QualifiedName Field => some (ComplexType.declareAll
      { space, unstructured, fields := fields' } store.nextId name fields)) inherited
  · exact congrArg (Option.map DocumentType.name) ((type?_push _ _ _).trans (if_pos rfl))

/-- A type that is built over a complex one has the fields that this one had then, each of them
the same as there, unless it declares the name itself. What is declared on one of the two later
does not reach the other. -/
theorem inherits_and_overrides (earlier later : List Event) (name : TypeName) (base : TypeRef)
    (flags : UInt16) (space : Namespace) (unstructured : Option Bool)
    (fields : List FieldDeclaration) {super : TypeId} {type : DocumentType} {parent : ComplexType}
    (resolved : (Store.initial.after earlier).resolve base = some super)
    (found : (Store.initial.after earlier).type? super = some type)
    (isComplex : type.complex? = some parent) :
    let before := Store.initial.after earlier
    let after := before.after
      (.operate (.build ⟨name, base, flags, .complex space unstructured fields⟩) :: later)
    ∃ complex present, after.complexAt? before.nextId = some complex ∧
      after.complexAt? super = some present ∧
      ComplexType.DeclaredOver { space, unstructured, fields := parent.fields } before.nextId name
        (fields ++ Event.declarationsOn before.nextId later) complex ∧
      parent.DeclaredOver super type.name (Event.declarationsOn super later) present := by
  intro before after
  have parentFound : before.complexAt? super = some parent := by
    rw [complexAt?, found]
    exact isComplex
  have keyed : parent.Keyed := (orderly_after earlier super parent parentFound).keyed
  let start : ComplexType := { space, unstructured, fields := parent.fields }
  have startKeyed : start.Keyed := keyed
  let build : Event := .operate (.build ⟨name, base, flags, .complex space unstructured fields⟩)
  rcases complexAt?_perform_build resolved parentFound name flags space unstructured fields with
    ⟨built, named⟩
  rcases complexAt?_after built named later with ⟨lookups, complexFound⟩
  have parentNamed : (before.type? super).map DocumentType.name = some type.name := by
    rw [found]
    rfl
  rcases complexAt?_after parentFound parentNamed (build :: later) with ⟨known, presentFound⟩
  refine ⟨_, _, complexFound, presentFound, ?_, ?_⟩
  · rw [ComplexType.declareAll, ComplexType.declareAll, ← List.foldl_append]
    exact startKeyed.declaredOver _ _ _ _
  · exact keyed.declaredOver _ _ _ _

/-- A type declares one of the two fields of its base anew, twice, and gets one of its own; then
the base gets one more. -/
theorem inherits_and_overrides_title :
    let field (name : String) : FieldDeclaration := ⟨name, .null, none, 0, 1, 1⟩
    let declare (id : TypeId) (name : String) : Event := .operate (.declareField id (field name))
    let earlier : List Event := [.operate (.build ⟨⟨"a", "a"⟩, .null, 0,
      .complex ⟨"a", "a"⟩ none [field "title", field "creator"]⟩)]
    let build : Event := .operate (.build ⟨⟨"b", "b"⟩, .direct ⟨8⟩ ⟨"a", "a"⟩, 0,
      .complex ⟨"b", "b"⟩ none [field "a:title"]⟩)
    let later := [declare ⟨9⟩ "note", declare ⟨8⟩ "subject", declare ⟨9⟩ "a:title"]
    let after := (Store.initial.after earlier).after (build :: later)
    ∃ complex present, after.complexAt? ⟨9⟩ = some complex ∧ after.complexAt? ⟨8⟩ = some present ∧
      complex.names = [⟨"a", "title"⟩, ⟨"a", "creator"⟩, ⟨"b", "note"⟩] ∧
      complex.fields.get? ⟨"a", "title"⟩ =
        some ((field "a:title").declaredBy ⟨9⟩ ⟨"b", "b"⟩ ⟨"b", "b"⟩ 2) ∧
      complex.fields.get? ⟨"a", "creator"⟩ =
        some ((field "creator").declaredBy ⟨8⟩ ⟨"a", "a"⟩ ⟨"a", "a"⟩ 1) ∧
      present.names = [⟨"a", "title"⟩, ⟨"a", "creator"⟩, ⟨"a", "subject"⟩] ∧
      present.fields.get? ⟨"a", "title"⟩ =
        some ((field "title").declaredBy ⟨8⟩ ⟨"a", "a"⟩ ⟨"a", "a"⟩ 0) := by
  intro field declare earlier build later after
  have parentKnown : ∃ type ∈ (Store.initial.after earlier).type? ⟨8⟩, ∃ parent ∈ type.complex?,
      parent.names = [⟨"a", "title"⟩, ⟨"a", "creator"⟩] ∧ parent.space = ⟨"a", "a"⟩ ∧
      parent.fields.get? ⟨"a", "creator"⟩ =
        some ((field "creator").declaredBy ⟨8⟩ ⟨"a", "a"⟩ ⟨"a", "a"⟩ 1) ∧
      parent.fields.get? ⟨"a", "title"⟩ =
        some ((field "title").declaredBy ⟨8⟩ ⟨"a", "a"⟩ ⟨"a", "a"⟩ 0) := by
    decide +kernel
  rcases parentKnown with ⟨type, found, parent, isComplex, names, space, creator, title⟩
  have resolved : (Store.initial.after earlier).resolve (.direct ⟨8⟩ ⟨"a", "a"⟩) = some ⟨8⟩ := by
    decide +kernel
  have next : (Store.initial.after earlier).nextId = ⟨9⟩ := by decide +kernel
  have shown := inherits_and_overrides earlier later ⟨"b", "b"⟩ (.direct ⟨8⟩ ⟨"a", "a"⟩) 0
    ⟨"b", "b"⟩ none [field "a:title"] resolved found isComplex
  dsimp only at shown
  rw [next] at shown
  rcases shown with ⟨complex, present, complexFound, presentFound, own, base⟩
  have declared : Event.declarationsOn ⟨9⟩ later = [field "note", field "a:title"] := rfl
  have declaredBelow : Event.declarationsOn ⟨8⟩ later = [field "subject"] := rfl
  rw [declared] at own
  rw [declaredBelow] at base
  refine ⟨complex, present, complexFound, presentFound, ?_, ?_, ?_, ?_, ?_⟩
  · have new : ([field "a:title", field "note", field "a:title"].map (·.nameIn ⟨"b", "b"⟩)).filter
        (· ∉ parent.names) = [⟨"b", "note"⟩] := by
      rw [names]
      decide +kernel
    exact own.names_eq.trans (congrArg₂ (fun old new => old ++ new.eraseDups) names new)
  · have latest : Entries.last? (FieldDeclaration.allDeclaredBy
        [field "a:title", field "note", field "a:title"] ⟨9⟩ ⟨"b", "b"⟩ ⟨"b", "b"⟩ 0)
        ⟨"a", "title"⟩ = some ((field "a:title").declaredBy ⟨9⟩ ⟨"b", "b"⟩ ⟨"b", "b"⟩ 2) := by
      decide +kernel
    exact (own.field_eq _).trans (congrArg (Option.or · _) latest)
  · have undeclared : (⟨"a", "creator"⟩ : QualifiedName) ∉
        [field "a:title", field "note", field "a:title"].map (·.nameIn ⟨"b", "b"⟩) := by
      decide +kernel
    exact (own.get?_of_undeclared undeclared).trans creator
  · have new : ([field "subject"].map (·.nameIn ⟨"a", "a"⟩)).filter (· ∉ parent.names) =
        [⟨"a", "subject"⟩] := by
      rw [names]
      decide +kernel
    rw [base.names_eq, space]
    exact congrArg₂ (fun old new => old ++ new.eraseDups) names new
  · refine (base.get?_of_undeclared ?_).trans title
    rw [space]
    decide +kernel

end Store
end DocumentTypes
