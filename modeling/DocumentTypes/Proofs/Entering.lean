import DocumentTypes.Proofs.CarryOut
import DocumentTypes.Proofs.Merge
import DocumentTypes.Proofs.Numbering

/-! # Entering types, schemas and facets

What is in a store after types, schemas or facets have been built and registered: one
more type for each of them, under its name, and open requests for the facets that mention
a registered schema. -/

namespace DocumentTypes

/-! ## Types by their ids -/

namespace Blueprint

/-- The kind of a type with a given id, built from a blueprint without a base for its
fields. -/
def kindAs (blueprint : Blueprint) (id : TypeId) : TypeKind :=
  match blueprint.body with
  | .primitive kind => .primitive kind
  | .simple constraints => .simple { constraints }
  | .complex space unstructured fields =>
    let start : ComplexType := { space, unstructured, fields := .empty }
    .complex (start.declareAll id blueprint.name fields)
  | .composite schemas => .composite (CompositeType.empty.addAll schemas)
  | .list item itemName defaultText minOccurs maxOccurs =>
    .list {
      item := itemField id blueprint.name item itemName minOccurs maxOccurs
      isArray := itemName.isNone
      defaultText
      minOccurs
      maxOccurs }

def builtAs (blueprint : Blueprint) (id : TypeId) : DocumentType where
  name := blueprint.name
  base := blueprint.base
  flags := blueprint.flags
  kind := blueprint.kindAs id

theorem Refers.built_eq {admitted : TypeRef → Prop} {blueprint : Blueprint}
    (refers : blueprint.Refers admitted) (store : Store) :
    blueprint.built store = blueprint.builtAs store.nextId := by
  rcases blueprint with ⟨name, base, flags, body⟩
  cases body with
  | primitive | composite => cases refers
  | simple | list => rfl
  | complex space unstructured fields =>
      rcases refers with ⟨rfl, -⟩
      rfl

end Blueprint

/-! ## Requests to merge -/

namespace DocumentType

/-- A type after a number of requests to merge again, of which it takes account only if it
is a composite that mentions the schema. -/
def asked (schema : String) (count : Nat) (type : DocumentType) : DocumentType :=
  match type.kind with
  | .composite composite =>
    if composite.references.contains schema then
      { type with kind := .composite { composite with
          requested := composite.requested + count } }
    else type
  | _ => type

theorem asked_zero (schema : String) (type : DocumentType) : type.asked schema 0 = type := by
  rcases type with ⟨name, base, flags, kind⟩
  cases kind with
  | composite =>
      unfold asked
      dsimp only
      split <;> rfl
  | primitive | simple | complex | list => rfl

theorem asked_asked (schema : String) (first second : Nat) (type : DocumentType) :
    (type.asked schema first).asked schema second = type.asked schema (first + second) := by
  rcases type with ⟨name, base, flags, kind⟩
  cases kind with
  | composite composite =>
      by_cases mentions : composite.references.contains schema = true
      · simp [asked, mentions, Nat.add_assoc]
      · simp [asked, mentions]
  | primitive | simple | complex | list => rfl

theorem asked_of_composite?_eq_none {type : DocumentType} (other : type.composite? = none)
    (schema : String) (count : Nat) : type.asked schema count = type := by
  rcases type with ⟨name, base, flags, kind⟩
  cases kind with
  | composite => cases other
  | primitive | simple | complex | list => rfl

def askedAll (schemas : List String) (count : Nat) (type : DocumentType) : DocumentType :=
  schemas.foldl (fun type schema => type.asked schema count) type

theorem askedAll_zero (schemas : List String) (type : DocumentType) :
    type.askedAll schemas 0 = type := by
  induction schemas with
  | nil => rfl
  | cons schema rest induction =>
      rw [askedAll, List.foldl_cons, asked_zero]
      exact induction

theorem askedAll_append (first second : List String) (count : Nat) (type : DocumentType) :
    type.askedAll (first ++ second) count = (type.askedAll first count).askedAll second count :=
  List.foldl_append

theorem askedAll_of_composite?_eq_none {type : DocumentType} (other : type.composite? = none)
    (schemas : List String) (count : Nat) : type.askedAll schemas count = type := by
  induction schemas with
  | nil => rfl
  | cons schema rest induction =>
      rw [askedAll, List.foldl_cons, asked_of_composite?_eq_none other]
      exact induction

theorem part_askedAll {α : Type} (part : DocumentType → α)
    (same : ∀ name base flags (composite : CompositeType) requested,
      part ⟨name, base, flags, .composite { composite with requested }⟩ =
        part ⟨name, base, flags, .composite composite⟩)
    (schemas : List String) (count : Nat) (type : DocumentType) :
    part (type.askedAll schemas count) = part type := by
  induction schemas generalizing type with
  | nil => rfl
  | cons schema rest induction =>
      refine (induction _).trans ?_
      rcases type with ⟨name, base, flags, kind⟩
      cases kind with
      | composite composite =>
          unfold asked
          dsimp only
          split
          · exact same name base flags composite _
          · rfl
      | primitive | simple | complex | list => rfl

theorem complex?_askedAll (schemas : List String) (count : Nat) (type : DocumentType) :
    (type.askedAll schemas count).complex? = type.complex? :=
  part_askedAll complex? (fun _ _ _ _ _ => rfl) schemas count type

theorem asked_comm (first second : String) (count : Nat) (type : DocumentType) :
    (type.asked first count).asked second count = (type.asked second count).asked first count := by
  rcases type with ⟨name, base, flags, kind⟩
  cases kind with
  | composite composite =>
      by_cases one : composite.references.contains first = true <;>
        by_cases other : composite.references.contains second = true <;>
          simp [asked, one, other]
  | primitive | simple | complex | list => rfl

theorem askedAll_perm {first second : List String} (perm : first.Perm second) (count : Nat)
    (type : DocumentType) : type.askedAll first count = type.askedAll second count :=
  perm.foldl_eq' (fun one _ other _ type => asked_comm one other count type) type

end DocumentType

namespace Action

theorem run_invalidateFacet (schema : String) (facet : String × TypeId) (store : Store) :
    ∃ types notices, ((invalidateFacet schema facet).run store).2 =
        { store with types, notices } ∧
      types.size = store.types.size ∧
      ∀ id, ({ store with types, notices } : Store).type? id =
        (store.type? id).map (DocumentType.asked schema (if facet.2 = id then 1 else 0)) := by
  have silent (unasked : ∀ type, store.type? facet.2 = some type →
      type.asked schema 1 = type) : ∀ id, store.type? id =
        (store.type? id).map (DocumentType.asked schema (if facet.2 = id then 1 else 0)) := by
    intro id
    by_cases same : facet.2 = id
    · subst same
      rw [if_pos rfl]
      cases found : store.type? facet.2 with
      | none => rfl
      | some type => rw [Option.map_some, unasked type found]
    · rw [if_neg same]
      cases store.type? id with
      | none => rfl
      | some type => rw [Option.map_some, DocumentType.asked_zero]
  unfold invalidateFacet
  simp only [run_bind, run_get, mentioning?_eq]
  cases found : store.compositeAt? facet.2 with
  | none =>
      refine ⟨store.types, store.notices, rfl, rfl, silent fun type typeFound => ?_⟩
      refine DocumentType.asked_of_composite?_eq_none ?_ schema 1
      rw [Store.compositeAt?, typeFound] at found
      exact found
  | some composite =>
      rcases Store.type_of_compositeAt? found with ⟨type, typeFound, kind⟩
      by_cases mentions : composite.references.contains schema = true
      · rw [Option.filter_some, if_pos mentions]
        let noted := store.note (.facetInvalidated facet.1 schema)
        let after := noted.setKind facet.2 (.composite composite.invalidate)
        have result : after = { store with types := after.types, notices := noted.notices } := by
          unfold after Store.setKind
          split <;> rfl
        refine ⟨after.types, noted.notices, result, Store.size_setKind, fun id => ?_⟩
        rw [← result]
        refine (Store.type?_setKind noted facet.2 id _).trans ?_
        by_cases same : facet.2 = id
        · subst same
          have asked : type.asked schema 1 =
              { type with kind := .composite composite.invalidate } := by
            unfold DocumentType.asked
            simp only [kind, mentions, if_true]
            rfl
          rw [if_pos rfl, if_pos rfl, typeFound, Option.map_some, asked]
          change (store.type? facet.2).map _ = _
          rw [typeFound]
          rfl
        · rw [if_neg (Ne.symm same), if_neg same]
          change store.type? id = _
          cases store.type? id with
          | none => rfl
          | some other => rw [Option.map_some, DocumentType.asked_zero]
      · rw [Option.filter_some, if_neg mentions]
        refine ⟨store.types, store.notices, rfl, rfl, silent fun other otherFound => ?_⟩
        cases typeFound.symm.trans otherFound
        unfold DocumentType.asked
        simp only [kind]
        rw [if_neg mentions]

theorem run_invalidateFacets (schema : String) (facets : List (String × TypeId))
    (store : Store) :
    ∃ types notices, ((facets.forM (invalidateFacet schema)).run store).2 =
        { store with types, notices } ∧
      types.size = store.types.size ∧
      ∀ id, ({ store with types, notices } : Store).type? id =
        (store.type? id).map (DocumentType.asked schema ((facets.map Prod.snd).count id)) := by
  induction facets generalizing store with
  | nil =>
      refine ⟨store.types, store.notices, rfl, rfl, fun id => ?_⟩
      change store.type? id = _
      cases store.type? id with
      | none => rfl
      | some type => rw [Option.map_some, List.map_nil, List.count_nil, DocumentType.asked_zero]
  | cons facet rest induction =>
      rcases run_invalidateFacet schema facet store with ⟨types, notices, first, size, asked⟩
      rcases induction { store with types, notices } with
        ⟨lastTypes, lastNotices, later, lastSize, lastAsked⟩
      refine ⟨lastTypes, lastNotices, ?_, lastSize.trans size, fun id => ?_⟩
      · change ((rest.forM (invalidateFacet schema)).run
          ((invalidateFacet schema facet).run store).2).2 = _
        rw [first]
        exact later
      · refine (lastAsked id).trans ?_
        rw [asked id, Option.map_map]
        congr 1
        funext type
        rw [Function.comp_apply, DocumentType.asked_asked, List.map_cons, List.count_cons,
          Nat.add_comm]
        simp only [beq_iff_eq]

theorem run_schemaChanged (schema : String) (store : Store) :
    ∃ types notices, ((schemaChanged schema).run store).2 =
        { store with types, notices, registry := { store.registry with fieldLookups := .empty } } ∧
      types.size = store.types.size ∧
      ∀ id, ({ store with types, notices } : Store).type? id =
        (store.type? id).map
          (DocumentType.asked schema (store.registry.facets.values.count id)) :=
  run_invalidateFacets schema store.registry.facets.entries
    (store.setRegistry { store.registry with fieldLookups := .empty })

end Action

/-! ## Qualifiers -/

namespace Store

/-- The qualifier that the schema registered under a name declares. -/
def declaredQualifier? (store : Store) (schema : String) : Option String :=
  (store.registry.schemas.get? schema).map store.qualifierAt

def SchemasExist (store : Store) : Prop :=
  ∀ name id, store.registry.schemas.get? name = some id → (store.type? id).isSome = true

theorem SchemasExist.declaredQualifier?_push {store : Store} (exist : store.SchemasExist)
    (type : DocumentType) (schema : String) :
    (store.push type).declaredQualifier? schema = store.declaredQualifier? schema := by
  unfold declaredQualifier?
  change (store.registry.schemas.get? schema).map (store.push type).qualifierAt = _
  cases registered : store.registry.schemas.get? schema with
  | none => rfl
  | some id =>
      rcases Option.isSome_iff_exists.mp (exist schema id registered) with ⟨_, found⟩
      have kept : (store.push type).complexAt? id = store.complexAt? id :=
        (store.complexAt?_push type id).trans (if_neg (ne_nextId found))
      rw [Option.map_some, Option.map_some, qualifierAt, qualifierAt, kept]

end Store

/-- An owner keeps a qualifier, unless it is one of the schemas that give up the qualifier
they declared before. -/
def keepsQualifier (schemas : List String) (declared : String → Option String)
    (qualifier owner : String) : Bool :=
  !(schemas.contains owner && declared owner == some qualifier)

theorem keepsQualifier_congr {first second : List String} (perm : first.Perm second)
    {declared others : String → Option String} (same : ∀ name ∈ first, declared name = others name)
    (qualifier : String) :
    keepsQualifier first declared qualifier = keepsQualifier second others qualifier := by
  funext owner
  unfold keepsQualifier
  by_cases member : owner ∈ first
  · have present := perm.mem_iff.mp member
    simp [member, present, same owner member]
  · have absent : owner ∉ second := fun present => member (perm.mem_iff.mpr present)
    simp [member, absent]

theorem keepsQualifier_append {first second : List String}
    (apart : ∀ name ∈ first, name ∉ second) (early late : String → Option String)
    (qualifier : String) :
    keepsQualifier (first ++ second) (fun name => if name ∈ first then early name else late name)
      qualifier = fun owner => keepsQualifier first early qualifier owner &&
        keepsQualifier second late qualifier owner := by
  funext owner
  unfold keepsQualifier
  by_cases inFirst : owner ∈ first
  · simp [inFirst, apart owner inFirst]
  · by_cases inSecond : owner ∈ second <;> simp [inFirst, inSecond]

theorem Registry.get?_releaseQualifier (registry : Registry) (released owner qualifier : String) :
    (registry.releaseQualifier released owner).qualifiers.get? qualifier =
      (registry.qualifiers.get? qualifier).filter
        (keepsQualifier [owner] (fun _ => some released) qualifier) := by
  unfold releaseQualifier
  by_cases owned : registry.qualifiers.get? released = some owner
  · rw [if_pos owned, Table.get?_erase]
    by_cases same : released = qualifier
    · rw [if_pos same, ← same, owned, Option.filter_some]
      simp [keepsQualifier]
    · rw [if_neg same]
      cases registry.qualifiers.get? qualifier with
      | none => rfl
      | some other =>
          rw [Option.filter_some]
          simp [keepsQualifier, same]
  · rw [if_neg owned]
    cases found : registry.qualifiers.get? qualifier with
    | none => rfl
    | some other =>
        rw [Option.filter_some]
        by_cases same : released = qualifier
        · have different : other ≠ owner := by
            intro equal
            rw [same, found, equal] at owned
            exact owned rfl
          simp [keepsQualifier, different]
        · simp [keepsQualifier, same]

namespace Action

theorem get?_releaseQualifier (schema : String) (store : Store) :
    ∃ qualifiers, (releaseQualifier schema).run store =
        (⟨⟩, store.setRegistry { store.registry with qualifiers }) ∧
      ∀ qualifier, qualifiers.get? qualifier = (store.registry.qualifiers.get? qualifier).filter
        (keepsQualifier [schema] store.declaredQualifier? qualifier) := by
  unfold releaseQualifier
  rw [run_bind, run_get]
  cases found : store.registry.schemas.get? schema with
  | none =>
      refine ⟨store.registry.qualifiers, rfl, fun qualifier => ?_⟩
      cases store.registry.qualifiers.get? qualifier with
      | none => rfl
      | some owner =>
          have kept : keepsQualifier [schema] store.declaredQualifier? qualifier owner = true := by
            by_cases same : owner = schema
            · simp [keepsQualifier, Store.declaredQualifier?, same, found]
            · simp [keepsQualifier, same]
          rw [Option.filter_some, if_pos kept]
  | some previous =>
      let released := store.registry.releaseQualifier (store.qualifierAt previous) schema
      refine ⟨released.qualifiers, ?_, fun qualifier => ?_⟩
      · have result : released = { store.registry with qualifiers := released.qualifiers } := by
          unfold released Registry.releaseQualifier
          split <;> rfl
        rw [← result]
        rfl
      · rw [Registry.get?_releaseQualifier]
        congr 1
        funext owner
        by_cases same : owner = schema
        · simp [keepsQualifier, Store.declaredQualifier?, same, found]
        · simp [keepsQualifier, same]

theorem get?_claimQualifier (claimed schema : String) (store : Store) :
    ∃ qualifiers notices, (claimQualifier claimed schema).run store =
        (⟨⟩, { store.setRegistry { store.registry with qualifiers } with notices }) ∧
      ∀ qualifier, qualifiers.get? qualifier =
        if claimed ≠ "" ∧ claimed = qualifier then some schema
        else store.registry.qualifiers.get? qualifier := by
  unfold claimQualifier
  by_cases empty : claimed = ""
  · subst empty
    exact ⟨store.registry.qualifiers, store.notices, rfl, fun _ => rfl⟩
  · have given : (claimed != "") = true := by simp [empty]
    have put : ∀ qualifier, (store.registry.qualifiers.put claimed schema).get? qualifier =
        if claimed ≠ "" ∧ claimed = qualifier then some schema
        else store.registry.qualifiers.get? qualifier := by
      intro qualifier
      rw [Table.get?_put]
      simp [empty]
    rw [if_pos given, run_bind, run_get, run_bind, run_modify]
    cases store.registry.qualifiers.get? claimed with
    | none => exact ⟨_, store.notices, rfl, put⟩
    | some owner =>
        dsimp only
        split
        · exact ⟨_, .qualifierMoved claimed owner schema :: store.notices, rfl, put⟩
        · exact ⟨_, store.notices, rfl, put⟩

/-- All that registering a schema does. -/
theorem run_registerComplex (id : TypeId) (name : TypeName) (space : Namespace)
    (store : Store) : ∃ types notices qualifiers,
      ((registerComplex id name space).run store).2 = { store with
        types
        notices
        registry := { store.registry with
          types := store.registry.types.put name id
          schemas := store.registry.schemas.put name.name id
          qualifiers
          fieldLookups := .empty } } ∧
      types.size = store.types.size ∧
      (∀ other, ({ store with types, notices } : Store).type? other =
        (store.type? other).map
          (DocumentType.asked name.name (store.registry.facets.values.count other))) ∧
      ∀ qualifier, qualifiers.get? qualifier =
        if space.qualifier ≠ "" ∧ space.qualifier = qualifier then some name.name
        else (store.registry.qualifiers.get? qualifier).filter
          (keepsQualifier [name.name] store.declaredQualifier? qualifier) := by
  rcases get?_releaseQualifier name.name store with ⟨released, releaseRun, kept⟩
  rcases get?_claimQualifier space.qualifier name.name
    (store.setRegistry { store.registry with qualifiers := released }) with
    ⟨qualifiers, noticed, claimRun, claimed⟩
  let changed : Store := { store with
    notices := noticed
    registry := { store.registry with
      types := store.registry.types.put name id
      schemas := store.registry.schemas.put name.name id
      qualifiers } }
  rcases run_schemaChanged name.name changed with ⟨types, notices, run, size, asked⟩
  refine ⟨types, .schemaRegistered name.name :: notices, qualifiers, ?_, size, asked, ?_⟩
  · unfold registerComplex
    simp only [run_bind, releaseRun, claimRun, run_modify, run_note]
    change ((schemaChanged name.name).run changed).2.note _ = _
    rw [run]
    rfl
  · intro qualifier
    rw [claimed, ← kept]
    rfl

theorem run_unregisterSchema {schema : String} {store : Store} {id : TypeId}
    (registered : store.registry.schemas.get? schema = some id) :
    ∃ types notices qualifiers,
      (unregisterSchema schema).run store = (true, { store with
        types
        notices
        registry := { store.registry with
          types := store.registry.types.erase
            ⟨(store.type? id).elim "" fun type => type.name.schema, schema⟩
          schemas := store.registry.schemas.erase schema
          qualifiers
          fieldLookups := .empty } }) ∧
      types.size = store.types.size ∧
      (∀ other, ({ store with types, notices } : Store).type? other =
        (store.type? other).map
          (DocumentType.asked schema (store.registry.facets.values.count other))) ∧
      ∀ qualifier, qualifiers.get? qualifier =
        (store.registry.qualifiers.get? qualifier).filter
          (keepsQualifier [schema] store.declaredQualifier? qualifier) := by
  rcases get?_releaseQualifier schema store with ⟨qualifiers, releaseRun, kept⟩
  let home := (store.type? id).elim "" fun type => type.name.schema
  let changed : Store := store.setRegistry { store.registry with
    types := store.registry.types.erase ⟨home, schema⟩
    schemas := store.registry.schemas.erase schema
    qualifiers }
  rcases run_schemaChanged schema changed with ⟨types, notices, run, size, asked⟩
  refine ⟨types, .schemaUnregistered schema :: notices, qualifiers, ?_, size, asked, kept⟩
  unfold unregisterSchema
  rw [run_bind, run_get, registered]
  simp only [run_bind, releaseRun, run_type?, run_modify, run_note, run_pure]
  change (true, ((schemaChanged schema).run changed).2.note _) = _
  rw [run]
  rfl

end Action
end DocumentTypes
