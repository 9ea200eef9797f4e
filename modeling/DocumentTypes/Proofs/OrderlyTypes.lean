import DocumentTypes.Proofs.FieldNames
import DocumentTypes.Proofs.FieldPaths
import DocumentTypes.Proofs.PrimitiveMemos
import DocumentTypes.Proofs.Steadiness

/-! # Complex types in order

Whatever happens to a store, the fields of its complex types are filed under their own names,
and what has been looked up is what would be found. -/

namespace DocumentTypes

/-! ## One type -/

structure ComplexType.Orderly (complex : ComplexType) : Prop where
  keyed : complex.Keyed
  remembers : complex.RemembersRight

namespace ComplexType

variable {complex : ComplexType}

theorem Keyed.declare (keyed : complex.Keyed) (id : TypeId) (name : TypeName)
    (declaration : FieldDeclaration) : (complex.declare id name declaration).1.Keyed := by
  intro key field found
  rcases Table.of_get?_put found with ⟨rfl, rfl⟩ | before
  · rfl
  · exact keyed key field before

theorem Keyed.declareAll (keyed : complex.Keyed) (id : TypeId) (name : TypeName)
    (declarations : List FieldDeclaration) : (complex.declareAll id name declarations).Keyed := by
  induction declarations generalizing complex with
  | nil => exact keyed
  | cons declaration rest induction => exact induction (keyed.declare id name declaration)

theorem Orderly.declare (orderly : complex.Orderly) (id : TypeId) (name : TypeName)
    (declaration : FieldDeclaration) : (complex.declare id name declaration).1.Orderly :=
  ⟨orderly.keyed.declare id name declaration, fun _ _ known => nomatch known⟩

theorem Orderly.lookUp (orderly : complex.Orderly) (name : String) :
    (complex.lookUp name).1.Orderly := by
  have remembers := lookups_lookUp orderly.remembers name
  rcases complex.lookUp_fst name with ⟨lookups, equal⟩
  rw [equal] at remembers ⊢
  exact ⟨orderly.keyed, remembers⟩

end ComplexType

/-! ## All types of a store -/

def Store.Orderly (store : Store) : Prop :=
  ∀ id complex, store.complexAt? id = some complex → complex.Orderly

namespace Store.Orderly

variable {before after store : Store} {id : TypeId}

theorem of_complexAt? (orderly : before.Orderly)
    (same : ∀ id, after.complexAt? id = before.complexAt? id) : after.Orderly :=
  fun id complex found => orderly id complex ((same id).symm.trans found)

theorem setComplex {complex other : ComplexType} (orderly : store.Orderly)
    (found : store.complexAt? id = some complex) (otherOrderly : other.Orderly) :
    (store.setKind id (.complex other)).Orderly := by
  intro place present presentFound
  rw [complexAt?_setKind_complex found] at presentFound
  by_cases same : place = id
  · rw [if_pos same] at presentFound
    exact Option.some.inj presentFound ▸ otherOrderly
  · rw [if_neg same] at presentFound
    exact orderly place present presentFound

theorem setComposite {composite other : CompositeType} (orderly : store.Orderly)
    (found : store.compositeAt? id = some composite) :
    (store.setKind id (.composite other)).Orderly :=
  orderly.of_complexAt? (complexAt?_setKind_composite found)

theorem observed (orderly : before.Orderly) (step : before.Observed after) : after.Orderly := by
  induction step with
  | refl | noted | remembered => exact orderly
  | trans _ _ first second => exact second (first orderly)
  | looked found name => exact orderly.setComplex found ((orderly _ _ found).lookUp name)
  | merged found => exact orderly.setComposite found

theorem consulted (orderly : before.Orderly) (step : before.Consulted after) :
    after.Orderly := by
  induction step with
  | observed step => exact orderly.observed step
  | trans _ _ first second => exact second (first orderly)
  | recalled =>
      refine orderly.of_complexAt? fun id => ?_
      rw [complexAt?_eq, bind_kind_rememberAll fun _ => rfl, ← complexAt?_eq]

theorem inheritedFields (orderly : store.Orderly) {base : TypeRef} {key : QualifiedName}
    {field : Field} (found : (Blueprint.inheritedFields store base).get? key = some field) :
    field.name = key := by
  unfold Blueprint.inheritedFields at found
  split at found
  next complex complexFound =>
    rcases Option.bind_eq_some_iff.mp complexFound with ⟨type, typeFound, isComplex⟩
    rcases Option.bind_eq_some_iff.mp typeFound with ⟨baseId, -, baseFound⟩
    have there : store.complexAt? baseId = some complex := by
      rw [complexAt?, baseFound]
      exact isComplex
    exact (orderly baseId complex there).keyed key field found
  next => cases found

theorem built (orderly : store.Orderly) (blueprint : Blueprint) :
    (store.push (blueprint.built store)).Orderly := by
  intro id complex found
  rw [complexAt?_push] at found
  by_cases same : id = store.nextId
  · rw [if_pos same] at found
    rcases blueprint with ⟨name, base, flags, body⟩
    cases body with
    | complex space unstructured fields =>
        cases found
        let start : ComplexType :=
          { space, unstructured, fields := Blueprint.inheritedFields store base }
        have inherited : start.Keyed := fun _ _ => orderly.inheritedFields
        refine ⟨inherited.declareAll _ _ _, fun name field known => ?_⟩
        rw [ComplexType.lookups_declareAll _ _ _ _ rfl] at known
        cases known
    | primitive | simple | composite | list => cases found
  · rw [if_neg same] at found
    exact orderly id complex found

theorem changed (orderly : before.Orderly) (step : before.Changed after) : after.Orderly := by
  induction step with
  | trans _ _ first second => exact second (first orderly)
  | observed step => exact orderly.observed step
  | reported | typeRegistered | held | facetEntered | dropped => exact orderly
  | built store blueprint => exact orderly.built blueprint
  | declared found _ name declaration =>
      exact orderly.setComplex found ((orderly _ _ found).declare _ name declaration)
  | schemaChanged _ _ _ _ _ _ _ asked => exact orderly.of_complexAt? asked.complexAt?_eq
  | schemaAdded found | invalidated found => exact orderly.setComposite found

/-! ## Histories -/

theorem declareField (orderly : store.Orderly) (id : TypeId) (declaration : FieldDeclaration) :
    ((Action.declareField id declaration).run.run store).2.Orderly := by
  unfold Action.declareField
  rw [Attempt.run_bind_type?]
  rcases found : store.type? id with _ | ⟨name, base, flags, kind⟩
  · exact orderly
  · cases kind with
    | complex complex =>
        have complexFound : store.complexAt? id = some complex := by
          rw [complexAt?, found]
          rfl
        have declared := (orderly id complex complexFound).declare id name declaration
        dsimp only
        split
        · have noted : (store.note
              (.lateField (complex.declare id name declaration).2.name)).Orderly := orderly
          exact noted.setComplex complexFound declared
        · exact orderly.setComplex complexFound declared
    | primitive | simple | composite | list => exact orderly

theorem addSchema (orderly : store.Orderly) (id : TypeId) (reference : TypeRef) :
    ((Action.addSchema id reference).run store).2.Orderly := by
  cases found : store.compositeAt? id with
  | none =>
      have absent : (store.type? id).bind DocumentType.composite? = none := found
      unfold Action.addSchema
      cases reference.target? with
      | none => exact orderly
      | some target =>
          simp only [Action.run_bind, Action.run_type?, absent]
          exact orderly
  | some composite =>
      rw [Action.run_addSchema found]
      cases reference.target? with
      | none => exact orderly
      | some target => exact orderly.setComposite found

theorem perform (orderly : store.Orderly) (event : Event) : (event.perform store).Orderly := by
  cases event with
  | ask query => exact orderly.consulted (query.consulted_perform store)
  | operate operation =>
      by_cases permitted : operation.Permitted store
      · exact orderly.changed (Operation.changed_perform permitted)
      · cases operation with
        | declareField id declaration => exact orderly.declareField id declaration
        | addSchema id reference => exact orderly.addSchema id reference
        | build | registerType | registerSchema | unregisterSchema | registerFacet | load
        | loadText | loadFile | invalidate | registeredField | fieldAt | lookUp | fieldsOf
        | snapshotOf | hold | dropRegistry => exact absurd trivial permitted

end Store.Orderly

/-- After any history, all complex types are in order. -/
theorem Store.orderly_after (events : List Event) : (Store.initial.after events).Orderly := by
  refine after_keeps Store.Orderly (fun event orderly => orderly.perform event) events ?_
  have blank : Store.blank.Orderly := fun _ _ found => nomatch found
  exact blank.changed (Action.changes_registerPrimitives .blank)

/-- A complex type in order finds under a name what is found among its fields. -/
theorem Action.run_lookUp_orderly {store : Store} {id : TypeId} {complex : ComplexType}
    (orderly : store.Orderly) (found : store.complexAt? id = some complex) (name : String) :
    ((lookUp id name).run store).1 = complex.find? name := by
  rw [run_lookUp_complex found, ComplexType.lookUp_snd (orderly id complex found).remembers]

/-! ## Answers -/

namespace ComplexType.Keyed

variable {complex : ComplexType} {field : Field} {name : String}

theorem find?_of_declared (keyed : complex.Keyed) (member : field ∈ complex.fields.values)
    (named : field.name = .parse name complex.space.qualifier) :
    complex.find? name = some field := by
  rw [find?, keyed.get?_iff.mpr ⟨member, named⟩]

theorem find?_of_undeclared (keyed : complex.Keyed) (undeclared : ∀ field ∈ complex.fields.values,
    field.name ≠ .parse name complex.space.qualifier) :
    complex.find? name = if name.contains ':' then none
      else complex.fields.values.find? fun field => field.localName == name := by
  have absent : complex.fields.get? (.parse name complex.space.qualifier) = none :=
    Option.eq_none_iff_forall_ne_some.mpr fun field found =>
      undeclared field (keyed.get?_iff.mp found).1 (keyed.get?_iff.mp found).2
  rw [find?, absent]

end ComplexType.Keyed

namespace Store

variable {store : Store} {id : TypeId} {complex : ComplexType}

/-- A run of lookups, each at a type of its own and by any name. -/
def afterLookups (store : Store) (lookups : List (TypeId × String)) : Store :=
  store.after (lookups.map fun lookup => .operate (.lookUp lookup.1 lookup.2))

theorem complexAt?_afterLookups (found : store.complexAt? id = some complex)
    (lookups : List (TypeId × String)) :
    ∃ known, (store.afterLookups lookups).complexAt? id = some { complex with lookups := known } := by
  induction lookups generalizing store complex with
  | nil => exact ⟨complex.lookups, found⟩
  | cons lookup rest induction =>
      have looked := (Action.observes_lookUp lookup.1 lookup.2 store).sameDeclared
      rcases looked.complexAt? found with ⟨known, still⟩
      rcases induction still with ⟨later, stays⟩
      exact ⟨later, stays⟩

end Store

/-- What a complex type finds is told by its fields in their order, whatever has happened before
and whatever has been looked up since: the field of the qualified name that is meant, or else,
under a bare name, the first one of this local name. -/
theorem Action.lookUp_by_order (events : List Event) {id : TypeId} {complex : ComplexType}
    (found : (Store.initial.after events).complexAt? id = some complex)
    (lookups : List (TypeId × String)) (name : String) :
    let answer :=
      ((lookUp id name).run ((Store.initial.after events).afterLookups lookups)).1
    (∀ field ∈ complex.fields.values, field.name = .parse name complex.space.qualifier →
      answer = some field) ∧
    ((∀ field ∈ complex.fields.values, field.name ≠ .parse name complex.space.qualifier) →
      answer = if name.contains ':' then none
        else complex.fields.values.find? fun field => field.localName == name) := by
  intro answer
  have keyed := (Store.orderly_after events id complex found).keyed
  have answer_eq : answer = complex.find? name := by
    rcases Store.complexAt?_afterLookups found lookups with ⟨known, still⟩
    have orderly := Store.orderly_after (events ++
      lookups.map fun lookup => .operate (.lookUp lookup.1 lookup.2))
    rw [Store.after, List.foldl_append] at orderly
    exact run_lookUp_orderly orderly still name
  rw [answer_eq]
  exact ⟨fun field => keyed.find?_of_declared, keyed.find?_of_undeclared⟩

/-- A field of the base is found under its bare name, until the type declares one of its own. -/
theorem Action.lookUp_by_order_of_title :
    let space (qualifier : String) : Namespace := ⟨qualifier, qualifier⟩
    let events : List Event := [
      .operate (.build ⟨⟨"a", "a"⟩, .null, 0,
        .complex (space "a") none [⟨"title", .null, none, 0, 1, 1⟩]⟩),
      .operate (.build ⟨⟨"b", "b"⟩, .direct ⟨8⟩ ⟨"a", "a"⟩, 0, .complex (space "b") none []⟩)]
    let inherited := Store.initial.after events
    let declared := Store.initial.after (events ++ [.operate (.lookUp ⟨9⟩ "a:title"),
      .operate (.declareField ⟨9⟩ ⟨"title", .null, none, 0, 1, 1⟩)])
    let lookups : List (TypeId × String) := [(⟨9⟩, "title"), (⟨9⟩, "a:title"), (⟨8⟩, "b:title")]
    ((lookUp ⟨9⟩ "title").run (inherited.afterLookups lookups)).1.map Field.name =
      some ⟨"a", "title"⟩ ∧
    ((lookUp ⟨9⟩ "title").run (declared.afterLookups lookups)).1.map Field.name =
      some ⟨"b", "title"⟩ := by
  intro space events inherited declared lookups
  have first : ∃ complex ∈ inherited.complexAt? ⟨9⟩,
      (∀ field ∈ complex.fields.values, field.name ≠ .parse "title" complex.space.qualifier) ∧
      (complex.fields.values.find? fun field => field.localName == "title").map Field.name =
        some ⟨"a", "title"⟩ := by decide +kernel
  have second : ∃ complex ∈ declared.complexAt? ⟨9⟩, ∃ field ∈ complex.fields.values,
      field.name = .parse "title" complex.space.qualifier ∧ field.name = ⟨"b", "title"⟩ := by
    decide +kernel
  rcases first with ⟨early, earlyFound, foreign, title⟩
  rcases second with ⟨late, lateFound, field, member, meant, named⟩
  have bare : "title".contains ':' = false := by
    rw [String.contains_char_eq]
    decide +kernel
  constructor
  · rw [(lookUp_by_order events earlyFound lookups "title").2 foreign, bare, ← title]
    rfl
  · rw [(lookUp_by_order _ lateFound lookups "title").1 field member meant, Option.map_some, named]

end DocumentTypes
