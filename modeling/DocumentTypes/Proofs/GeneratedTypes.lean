import DocumentTypes.Proofs.LoadedFields

/-! # Types that are generated for fields

A field with fields of its own has a type generated for these, and a list has one generated for
itself. Which types a schema gets in this way is told here from the positions of its fields. -/

namespace DocumentTypes

open Drafting (FieldsDrafted schemaScope simpleBlueprint? nestedTypeName listTypeName listTypes
  valueReference declaration)

/-! ## Positions -/

namespace DeclaredAt

variable {fields rest : List (String × FieldDefinition)} {name : String} {names : List String}
  {field target : FieldDefinition}

theorem ne_nil (declaredAt : DeclaredAt fields names field) : names ≠ [] := by
  cases declaredAt <;> exact List.cons_ne_nil _ _

theorem fields_ne_nil (declaredAt : DeclaredAt fields names field) : fields ≠ [] := by
  cases declaredAt with
  | here member => exact List.ne_nil_of_mem member
  | inside member => exact List.ne_nil_of_mem member

theorem path_cons (declaredAt : DeclaredAt fields names field) (leading name : String) :
    leading ++ "/".intercalate (name :: names) =
      leading ++ name ++ "/" ++ "/".intercalate names := by
  rw [String.intercalate_cons_of_ne_nil declaredAt.ne_nil, String.append_assoc,
    String.append_assoc, String.append_assoc]

theorem cons_iff : DeclaredAt ((name, field) :: rest) names target ↔
    (names = [name] ∧ target = field) ∨
      (∃ inner, names = name :: inner ∧ DeclaredAt field.fields inner target) ∨
      DeclaredAt rest names target := by
  constructor
  · rintro (member | ⟨member, later⟩)
    · rcases List.mem_cons.mp member with same | other
      · cases same
        exact .inl ⟨rfl, rfl⟩
      · exact .inr (.inr (.here other))
    · rcases List.mem_cons.mp member with same | other
      · cases same
        exact .inr (.inl ⟨_, rfl, later⟩)
      · exact .inr (.inr (.inside other later))
  · rintro (⟨rfl, rfl⟩ | ⟨inner, rfl, later⟩ | other)
    · exact .here List.mem_cons_self
    · exact .inside List.mem_cons_self later
    · cases other with
      | here member => exact .here (List.mem_cons_of_mem _ member)
      | inside member later => exact .inside (List.mem_cons_of_mem _ member) later

theorem unique {admitted : String → Prop} (fieldNames : FieldNames admitted fields)
    (one : DeclaredAt fields names field) (other : DeclaredAt fields names target) :
    field = target := by
  induction one with
  | here member =>
      cases other with
      | here alsoMember => exact eq_of_mem_of_nodup fieldNames.nodup member alsoMember
      | inside _ later => exact absurd rfl later.ne_nil
  | inside member later induction =>
      cases other with
      | here => exact absurd rfl later.ne_nil
      | inside alsoMember alsoLater =>
          cases eq_of_mem_of_nodup fieldNames.nodup member alsoMember
          exact induction (fieldNames.of_mem member).2 alsoLater

end DeclaredAt

/-! ## What a field is drafted to -/

/-- The type of one value of a field: the one generated for its own fields, or else what its
type name means. -/
def Scope.itemReference? (scope : Scope) (path : String) (field : FieldDefinition) :
    Option TypeRef :=
  if field.fields = [] then
    (field.typeName.bind scope.meaning?).map (.named scope.registryId)
  else some (.named scope.registryId ⟨scope.schema, nestedTypeName path⟩)

/-- The declarations of fields whose paths begin in the same way. -/
def Scope.declarations? (scope : Scope) (leading : String)
    (fields : List (String × FieldDefinition)) : Option (List FieldDeclaration) :=
  fields.mapM fun entry => (scope.itemReference? (leading ++ entry.1) entry.2).map fun item =>
    declaration entry.1 entry.2 (valueReference scope (leading ++ entry.1) entry.2 item)

/-- Why a type is generated for a field: it has fields of its own, or it is a list. -/
inductive Generation
  | nested
  | list
  deriving DecidableEq

namespace Generation

def Applies (field : FieldDefinition) : Generation → Prop
  | nested => field.fields ≠ []
  | list => field.isList = true

/-- The name of the type that is generated for the field at a path. -/
def typeName (path : String) : Generation → String
  | nested => nestedTypeName path
  | list => listTypeName path

/-- The reference by which a field uses the type: as that of its items, or as its own. -/
def reference? (scope : Scope) (path : String) (field : FieldDefinition) :
    Generation → Option TypeRef
  | nested => scope.itemReference? path field
  | list => (scope.itemReference? path field).map (valueReference scope path field)

/-- The type that is generated: a complex type with the field's own fields, or a list of its
items. -/
def blueprint? (scope : Scope) (space : Namespace) (path : String) (field : FieldDefinition) :
    Generation → Option Blueprint
  | nested => (scope.declarations? (path ++ "/") field.fields).map fun own => {
      name := ⟨scope.schema, nestedTypeName path⟩
      body := .complex space none own }
  | list => (scope.itemReference? path field).bind fun item =>
      (listTypes scope path field item).head?

variable {scope : Scope} {space : Namespace} {path : String} {field : FieldDefinition}
  {generation : Generation} {blueprint : Blueprint}

theorem blueprint?_name (drafted : generation.blueprint? scope space path field = some blueprint) :
    blueprint.name = ⟨scope.schema, generation.typeName path⟩ := by
  cases generation with
  | nested =>
      rcases Option.map_eq_some_iff.mp drafted with ⟨own, -, rfl⟩
      rfl
  | list =>
      rcases Option.bind_eq_some_iff.mp drafted with ⟨item, -, first⟩
      have member : blueprint.name ∈ (listTypes scope path field item).map Blueprint.name :=
        List.mem_map_of_mem (List.mem_of_mem_head? first)
      exact Drafting.listTypes_named member

theorem reference?_eq (applies : generation.Applies field)
    (drafted : generation.blueprint? scope space path field = some blueprint) :
    generation.reference? scope path field = some (.named scope.registryId blueprint.name) := by
  rw [blueprint?_name drafted]
  cases generation with
  | nested => exact if_neg applies
  | list =>
      rcases Option.bind_eq_some_iff.mp drafted with ⟨item, known, -⟩
      have isList : field.isList = true := applies
      rw [reference?, known, Option.map_some, valueReference, if_pos isList]
      rfl

theorem mem_listTypes_iff (space : Namespace) {item : TypeRef}
    (known : scope.itemReference? path field = some item) :
    blueprint ∈ listTypes scope path field item ↔
      list.Applies field ∧ list.blueprint? scope space path field = some blueprint := by
  rw [blueprint?, known, Option.bind_some, listTypes, Applies]
  cases field.isList <;> simp [eq_comm]

theorem exists_list_blueprint? (isList : list.Applies field) {item : TypeRef}
    (known : scope.itemReference? path field = some item) :
    ∃ blueprint, list.blueprint? scope space path field = some blueprint := by
  have generated : field.isList = true := isList
  rw [blueprint?, known, Option.bind_some, listTypes, if_pos generated]
  exact ⟨_, rfl⟩

theorem exists_iff {property : Generation → Prop} :
    (∃ generation, property generation) ↔ property nested ∨ property list := by
  constructor
  · rintro ⟨_ | _, holds⟩
    · exact .inl holds
    · exact .inr holds
  · exact fun either => either.elim (Exists.intro _) (Exists.intro _)

end Generation

/-- A type is generated for one of some fields, or for one inside of them. -/
def Generates (scope : Scope) (space : Namespace) (leading : String)
    (fields : List (String × FieldDefinition)) (blueprint : Blueprint) : Prop :=
  ∃ names field, DeclaredAt fields names field ∧ ∃ generation : Generation,
    generation.Applies field ∧
      generation.blueprint? scope space (leading ++ "/".intercalate names) field = some blueprint

theorem not_generates_nil (scope : Scope) (space : Namespace) (leading : String)
    (blueprint : Blueprint) : ¬Generates scope space leading [] blueprint := by
  rintro ⟨names, field, declaredAt, -⟩
  exact declaredAt.fields_ne_nil rfl

theorem generates_cons_iff {scope : Scope} {space : Namespace} {leading name : String}
    {field : FieldDefinition} {rest : List (String × FieldDefinition)} {blueprint : Blueprint} :
    Generates scope space leading ((name, field) :: rest) blueprint ↔
      (∃ generation : Generation, generation.Applies field ∧
        generation.blueprint? scope space (leading ++ name) field = some blueprint) ∨
      Generates scope space (leading ++ name ++ "/") field.fields blueprint ∨
      Generates scope space leading rest blueprint := by
  constructor
  · rintro ⟨names, target, declaredAt, generated⟩
    rcases DeclaredAt.cons_iff.mp declaredAt with ⟨rfl, rfl⟩ | ⟨inner, rfl, later⟩ | later
    · rw [String.intercalate_singleton] at generated
      exact .inl generated
    · rw [later.path_cons] at generated
      exact .inr (.inl ⟨inner, target, later, generated⟩)
    · exact .inr (.inr ⟨names, target, later, generated⟩)
  · rintro (generated | ⟨inner, target, later, generated⟩ | ⟨names, target, later, generated⟩)
    · refine ⟨[name], field, .here List.mem_cons_self, ?_⟩
      rwa [String.intercalate_singleton]
    · refine ⟨name :: inner, target, .inside List.mem_cons_self later, ?_⟩
      rwa [later.path_cons]
    · exact ⟨names, target, DeclaredAt.cons_iff.mpr (.inr (.inr later)), generated⟩

namespace Drafting.FieldsDrafted

variable {scope : Scope} {space : Namespace} {leading : String}
  {fields : List (String × FieldDefinition)} {declared : List FieldDeclaration} {draft : Draft}

theorem itemReference?_named {path typeName : String} {field : FieldDefinition}
    {target : TypeName} (plain : field.fields = []) (typed : field.typeName = some typeName)
    (meant : scope.meaning? typeName = some target) :
    scope.itemReference? path field = some (.named scope.registryId target) := by
  rw [Scope.itemReference?, if_pos plain, typed, Option.bind_some, meant, Option.map_some]

theorem declarations?_eq (drafted : FieldsDrafted scope space leading fields declared draft) :
    scope.declarations? leading fields = some declared := by
  unfold Scope.declarations?
  induction drafted with
  | nil => rfl
  | named plain typed meant _ induction =>
      rw [List.mapM_cons, induction, itemReference?_named plain typed meant]
      rfl
  | nested given _ _ _ induction =>
      rw [List.mapM_cons, induction, Scope.itemReference?, if_neg given]
      rfl

theorem mem_types_iff (drafted : FieldsDrafted scope space leading fields declared draft)
    {blueprint : Blueprint} :
    blueprint ∈ draft.types ↔ Generates scope space leading fields blueprint := by
  induction drafted with
  | nil =>
      have none : blueprint ∉ Draft.empty.types := List.not_mem_nil
      exact iff_of_false none (not_generates_nil _ _ _ _)
  | named plain typed meant _ induction =>
      rw [Draft.types_append, List.mem_append, induction, generates_cons_iff, plain,
        Generation.exists_iff,
        Generation.mem_listTypes_iff space (itemReference?_named plain typed meant)]
      simp [Generation.Applies, plain, not_generates_nil]
  | @nested leading name field _ own _ _ _ given inside _ inductionInside induction =>
      have holder : blueprint = {
            name := ⟨scope.schema, nestedTypeName (leading ++ name)⟩
            body := .complex space none own } ↔
          Generation.nested.Applies field ∧ Generation.nested.blueprint? scope space
            (leading ++ name) field = some blueprint := by
        rw [Generation.blueprint?, inside.declarations?_eq, Option.map_some, Option.some_inj,
          eq_comm]
        exact ⟨fun same => ⟨given, same⟩, And.right⟩
      rw [Draft.types_append, Draft.types_append, List.mem_append, List.mem_append,
        inductionInside, induction, generates_cons_iff, Generation.exists_iff, List.mem_cons,
        holder, Generation.mem_listTypes_iff space (if_neg given), or_assoc, or_left_comm]

theorem exists_blueprint? (drafted : FieldsDrafted scope space leading fields declared draft)
    {names : List String} {field : FieldDefinition} (declaredAt : DeclaredAt fields names field)
    {generation : Generation} (applies : generation.Applies field) :
    ∃ blueprint, generation.blueprint? scope space (leading ++ "/".intercalate names) field =
      some blueprint := by
  induction drafted generalizing names with
  | nil => exact absurd rfl declaredAt.fields_ne_nil
  | @named leading name _ field _ _ _ _ plain typed meant _ induction =>
      rcases DeclaredAt.cons_iff.mp declaredAt with ⟨rfl, rfl⟩ | ⟨inner, rfl, inside⟩ | later
      · cases generation with
        | nested => exact absurd plain applies
        | list =>
            rw [String.intercalate_singleton]
            exact Generation.exists_list_blueprint? applies
              (itemReference?_named plain typed meant)
      · exact absurd plain inside.fields_ne_nil
      · exact induction later
  | @nested leading name field _ _ _ _ _ given drafted _ inductionInside induction =>
      rcases DeclaredAt.cons_iff.mp declaredAt with ⟨rfl, rfl⟩ | ⟨inner, rfl, inside⟩ | later
      · rw [String.intercalate_singleton]
        cases generation with
        | nested => exact ⟨_, congrArg (Option.map _) drafted.declarations?_eq⟩
        | list => exact Generation.exists_list_blueprint? applies (if_neg given)
      · rw [inside.path_cons]
        exact inductionInside inside
      · exact induction later

end Drafting.FieldsDrafted

/-! ## Names of generated types -/

/-- What stands behind the path of a list in the name of its type. -/
def listMark : String := String.singleton Failure.anonymousMark ++ "list"

theorem listTypeName_eq_nestedTypeName (path : String) :
    listTypeName path = nestedTypeName (path ++ listMark) := by
  rw [listTypeName, nestedTypeName, nestedTypeName, listMark, String.append_assoc,
    String.append_assoc]

/-- Fields whose generated types cannot be taken for each other: no name holds the separator of
paths, and no field with fields of its own is named like a list beside it with the mark of lists. -/
structure ToldApart (fields : List (String × FieldDefinition)) : Prop where
  unseparated : FieldNames (fun name => '/' ∉ name.toList) fields
  unlisted : ∀ front last list other, DeclaredAt fields (front ++ [last]) list →
    list.isList = true → DeclaredAt fields (front ++ [last ++ listMark]) other → other.fields = []

/-- No type is generated under the same name for another position or another reason. -/
def Generation.IsSole (generation : Generation) (fields : List (String × FieldDefinition))
    (names : List String) : Prop :=
  ∀ others other (otherGeneration : Generation), DeclaredAt fields others other →
    otherGeneration.Applies other →
    otherGeneration.typeName ("/".intercalate others) =
      generation.typeName ("/".intercalate names) →
    others = names ∧ otherGeneration = generation

theorem eq_of_intercalate_eq {names others : List String} (given : names ≠ [])
    (othersGiven : others ≠ []) (plain : ∀ name ∈ names, '/' ∉ name.toList)
    (othersPlain : ∀ name ∈ others, '/' ∉ name.toList)
    (same : "/".intercalate names = "/".intercalate others) : names = others := by
  have back {names : List String} (given : names ≠ [])
      (plain : ∀ name ∈ names, '/' ∉ name.toList) :
      Path.splitOn '/' ("/".intercalate names) = names := by
    cases names with
    | nil => exact absurd rfl given
    | cons => exact Path.splitOn_intercalate plain
  rw [← back given plain, same, back othersGiven othersPlain]

theorem intercalate_append_last (separator : String) (front : List String) (last text : String) :
    separator.intercalate (front ++ [last]) ++ text =
      separator.intercalate (front ++ [last ++ text]) := by
  cases front with
  | nil => simp
  | cons first rest =>
      have given := List.cons_ne_nil first rest
      rw [String.intercalate_append_of_ne_nil given (List.cons_ne_nil _ _),
        String.intercalate_append_of_ne_nil given (List.cons_ne_nil _ _),
        String.intercalate_singleton, String.intercalate_singleton, String.append_assoc]

namespace ToldApart

variable {fields : List (String × FieldDefinition)} {names others : List String}
  {field other : FieldDefinition}

theorem of_unmarked (plain : FieldNames (fun name => '/' ∉ name.toList ∧
    Failure.anonymousMark ∉ name.toList) fields) : ToldApart fields where
  unseparated := plain.imp fun _ parts => parts.1
  unlisted front last _ _ _ _ declaredAt := by
    have unmarked := (declaredAt.admitted plain (last ++ listMark) (by simp)).2
    simp [listMark] at unmarked

theorem nested_ne_list (apart : ToldApart fields) (declaredAt : DeclaredAt fields names field)
    (given : field.fields ≠ []) (alsoAt : DeclaredAt fields others other)
    (isList : other.isList = true) :
    nestedTypeName ("/".intercalate names) ≠ listTypeName ("/".intercalate others) := by
  rw [listTypeName_eq_nestedTypeName]
  intro same
  have paths := (String.append_right_inj _).mp same
  rcases List.eq_nil_or_concat others with none | ⟨front, last, rfl⟩
  · exact alsoAt.ne_nil none
  · rw [List.concat_eq_append] at alsoAt paths
    rw [intercalate_append_last] at paths
    have plain := alsoAt.admitted apart.unseparated
    have lengthened : ∀ name ∈ front ++ [last ++ listMark], '/' ∉ name.toList := by
      have mark : '/' ∉ listMark.toList := by decide
      simp only [List.forall_mem_append, List.forall_mem_singleton] at plain ⊢
      simpa [mark] using plain
    cases eq_of_intercalate_eq declaredAt.ne_nil (by simp)
      (declaredAt.admitted apart.unseparated) lengthened paths
    exact given (apart.unlisted front last other field alsoAt isList declaredAt)

theorem isSole (apart : ToldApart fields) (declaredAt : DeclaredAt fields names field)
    {generation : Generation} (applies : generation.Applies field) :
    generation.IsSole fields names := by
  intro others other otherGeneration alsoAt alsoApplies same
  have names_eq := eq_of_intercalate_eq alsoAt.ne_nil declaredAt.ne_nil
    (alsoAt.admitted apart.unseparated) (declaredAt.admitted apart.unseparated)
  cases otherGeneration with
  | nested =>
      cases generation with
      | nested => exact ⟨names_eq ((String.append_right_inj _).mp same), rfl⟩
      | list => exact absurd same (apart.nested_ne_list alsoAt alsoApplies declaredAt applies)
  | list =>
      cases generation with
      | nested =>
          exact absurd same.symm (apart.nested_ne_list declaredAt applies alsoAt alsoApplies)
      | list =>
          unfold Generation.typeName at same
          rw [listTypeName_eq_nestedTypeName, listTypeName_eq_nestedTypeName] at same
          exact ⟨names_eq ((String.append_left_inj _).mp ((String.append_right_inj _).mp same)),
            rfl⟩

end ToldApart

/-! ## Loads -/

namespace Planned

variable {registry : Registry} {registryId : RegistryId} {document : SchemaDocument}
  {plan : Plan} {name : String} {definition : SchemaDefinition} {names : List String}
  {field : FieldDefinition} {generation : Generation}

theorem exists_generated (planned : Planned registry registryId document plan)
    (schema : (name, definition) ∈ document.schemas)
    (declaredAt : DeclaredAt definition.fields names field)
    (applies : generation.Applies field) :
    ∃ blueprint, generation.blueprint? (schemaScope registry registryId name definition)
        definition.space ("/".intercalate names) field = some blueprint ∧
      Registration.type blueprint ∈ plan.registrations := by
  rcases planned.drafted schema with ⟨result, drafted, typesPlanned, -⟩
  rcases drafted with ⟨-, -, fields⟩
  rcases fields.exists_blueprint? declaredAt applies with ⟨blueprint, generated⟩
  have member := fields.mem_types_iff.mpr ⟨names, field, declaredAt, generation, applies, generated⟩
  rw [String.empty_append] at generated
  exact ⟨blueprint, generated, typesPlanned blueprint (List.mem_append_right _ member)⟩

theorem generated_alone_of_isSole (planned : Planned registry registryId document plan)
    (once : document.NamesOnce) (schema : (name, definition) ∈ document.schemas)
    (declaredAt : DeclaredAt definition.fields names field)
    (applies : generation.Applies field) (sole : generation.IsSole definition.fields names)
    {blueprint : Blueprint}
    (generated : generation.blueprint? (schemaScope registry registryId name definition)
      definition.space ("/".intercalate names) field = some blueprint)
    (notSchema : generation.typeName ("/".intercalate names) ≠ name)
    (noFacet : name = facetSchema →
      generation.typeName ("/".intercalate names) ∉ document.facets.map Prod.fst) :
    ∀ other ∈ plan.registrations, other.typeName = blueprint.name → other = .type blueprint := by
  rcases planned.drafted schema with ⟨result, drafted, -, -⟩
  rcases drafted with @⟨blueprints, declared, draft, unmarkedTypes, types, fields⟩
  have named := Generation.blueprint?_name generated
  rw [← String.empty_append (s := "/".intercalate names)] at generated
  have member := fields.mem_types_iff.mpr ⟨names, field, declaredAt, generation, applies, generated⟩
  refine planned.generated_alone_of once schema unmarkedTypes types fields member
    (fun same => ?_) (fun facet facetMember same => ?_) fun other otherMember same => ?_
  · exact notSchema (congrArg TypeName.name (named.symm.trans same))
  · have parts := named.symm.trans same
    refine noFacet (congrArg TypeName.schema parts) (List.mem_map.mpr ⟨facet, facetMember, ?_⟩)
    exact (congrArg TypeName.name parts).symm
  · rcases fields.mem_types_iff.mp otherMember with
      ⟨others, otherField, alsoAt, otherGeneration, alsoApplies, alsoGenerated⟩
    have otherNamed := Generation.blueprint?_name alsoGenerated
    rw [String.empty_append] at otherNamed
    have typeNames := congrArg TypeName.name (otherNamed.symm.trans (same.trans named))
    rcases sole others otherField otherGeneration alsoAt alsoApplies typeNames with ⟨rfl, rfl⟩
    cases declaredAt.unique (once.fields _ schema) alsoAt
    exact Option.some.inj (alsoGenerated.symm.trans generated)

end Planned

namespace Attempt

variable {document : SchemaDocument} {store after : Store} {name : String}
  {definition : SchemaDefinition}

/-- Wherever a type is to be generated, one is built, and the field finds it as long as its name
is not taken by another type. -/
theorem load_builds_generated (loaded : (load document).run.run store = (.ok (), after))
    (schema : (name, definition) ∈ document.schemas) {names : List String}
    {field : FieldDefinition} (declaredAt : DeclaredAt definition.fields names field)
    {generation : Generation} (applies : generation.Applies field) :
    let scope := schemaScope store.registry store.registryId name definition
    ∃ reference blueprint id,
      generation.reference? scope ("/".intercalate names) field = some reference ∧
      generation.blueprint? scope definition.space ("/".intercalate names) field =
        some blueprint ∧
      store.types.size ≤ id.position ∧ after.type? id = some (blueprint.builtAs id) ∧
      (document.NamesOnce → generation.IsSole definition.fields names →
        generation.typeName ("/".intercalate names) ≠ name →
        (name = facetSchema →
          generation.typeName ("/".intercalate names) ∉ document.facets.map Prod.fst) →
        after.resolve reference = some id) := by
  intro scope
  rcases load_entered loaded with ⟨plan, planned, -, entered⟩
  rcases planned.exists_generated schema declaredAt applies with ⟨blueprint, generated, member⟩
  have used := Generation.reference?_eq applies generated
  by_cases alone : ∀ other ∈ plan.registrations, other.typeName = blueprint.name →
      other = .type blueprint
  · rcases entered.registered member alone with ⟨id, new, means, built⟩
    refine ⟨_, blueprint, id, used, generated, new, built, fun _ _ _ _ => ?_⟩
    change (if store.registryId = after.registryId then _ else none) = _
    rw [entered.registryId_eq, if_pos rfl]
    exact means
  · rw [← TypeId.map_fst_number store.types.size plan.registrations] at member
    rcases List.mem_map.mp member with ⟨entry, numbered, same⟩
    refine ⟨_, blueprint, entry.2, used, generated, (TypeId.position_of_mem_number numbered).1, ?_,
      fun once sole notSchema noFacet => ?_⟩
    · rw [entered.new entry numbered, same]
      rfl
    · exact absurd (planned.generated_alone_of_isSole once schema declaredAt applies sole generated
        notSchema noFacet) alone

/-- Types that are generated for the fields of a loaded schema are not taken for each other as long
as their names are different, as they are where the fields are told apart: every field finds the
type that was built for it. The fields are declared with their references in the schema and in
the types generated for fields inside of fields. -/
theorem load_generates_types (once : document.NamesOnce)
    (loaded : (load document).run.run store = (.ok (), after))
    (schema : (name, definition) ∈ document.schemas) :
    let scope := schemaScope store.registry store.registryId name definition
    (ToldApart definition.fields → ∀ names field, DeclaredAt definition.fields names field →
      ∀ generation : Generation, generation.Applies field →
      generation.IsSole definition.fields names) ∧
    (∃ id declared, after.registry.schemas.get? name = some id ∧
      scope.declarations? "" definition.fields = some declared ∧
      after.type? id = some (({
        name := ⟨name, name⟩
        body := .complex definition.space none declared } : Blueprint).builtAs id)) ∧
    ∀ names field, DeclaredAt definition.fields names field → ∀ generation : Generation,
      generation.Applies field → ∃ reference blueprint id,
        generation.reference? scope ("/".intercalate names) field = some reference ∧
        generation.blueprint? scope definition.space ("/".intercalate names) field =
          some blueprint ∧
        store.types.size ≤ id.position ∧ after.type? id = some (blueprint.builtAs id) ∧
        (generation.IsSole definition.fields names →
          generation.typeName ("/".intercalate names) ≠ name →
          (name = facetSchema →
            generation.typeName ("/".intercalate names) ∉ document.facets.map Prod.fst) →
          after.resolve reference = some id) := by
  intro scope
  refine ⟨fun apart names field declaredAt generation applies => apart.isSole declaredAt applies,
    ?_, ?_⟩
  · rcases load_entered loaded with ⟨plan, planned, -, entered⟩
    rcases planned.drafted schema with ⟨result, drafted, -, schemaPlanned⟩
    rcases entered.registeredSchema schemaPlanned (by cases drafted; rfl)
      (planned.schema_alone once schema drafted) with ⟨id, registered, built⟩
    rcases drafted with @⟨blueprints, declared, draft, unmarkedTypes, types, fields⟩
    exact ⟨id, declared, registered, fields.declarations?_eq, built⟩
  · intro names field declaredAt generation applies
    rcases load_builds_generated loaded schema declaredAt applies with
      ⟨reference, blueprint, id, used, generated, new, built, means⟩
    exact ⟨reference, blueprint, id, used, generated, new, built, means once⟩

/-- A list of fields with a list inside, beside a field of a declared type. -/
theorem load_generates_types_of_files :
    let size : FieldDefinition := { typeName := some "size", isList := true }
    let files : FieldDefinition := { isList := true, fields := [("size", size)] }
    let definition : SchemaDefinition := {
      types := [("size", { base := "long" })]
      fields := [("title", { typeName := some "string" }), ("files", files)] }
    let document : SchemaDocument := { schemas := [("dc", definition)], facets := [("dc", ["dc"])] }
    let after := ((load document).run.run .initial).2
    let scope := schemaScope Store.initial.registry Store.initial.registryId "dc" definition
    document.NamesOnce ∧ ((load document).run.run .initial).1 = .ok () ∧
    ToldApart definition.fields ∧ DeclaredAt definition.fields ["files", "size"] size ∧
    Generation.list.Applies size ∧
    Generation.list.typeName ("/".intercalate ["files", "size"]) ≠ "dc" ∧
    ∃ reference blueprint id,
      Generation.list.reference? scope ("/".intercalate ["files", "size"]) size =
        some reference ∧
      Generation.list.blueprint? scope definition.space ("/".intercalate ["files", "size"]) size =
        some blueprint ∧
      Store.initial.types.size ≤ id.position ∧ after.type? id = some (blueprint.builtAs id) ∧
      after.resolve reference = some id := by
  intro size files definition document after scope
  have loaded : ((load document).run.run .initial).1 = .ok () := by decide +kernel
  have names : ∀ {admitted : String → Prop}, (∀ name ∈ ["title", "files", "size"],
      admitted name) → FieldNames admitted definition.fields := fun admits =>
    .cons (admits _ (by decide)) (by decide) .nil (.cons (admits _ (by decide)) (by decide)
      (.cons (admits _ (by decide)) (by decide) .nil .nil) .nil)
  have once : document.NamesOnce := .of_sole (by decide) (names fun _ _ => trivial) (by decide)
  have apart : ToldApart definition.fields := .of_unmarked (names (by decide))
  have declaredAt : DeclaredAt definition.fields ["files", "size"] size :=
    .inside (List.mem_cons_of_mem _ List.mem_cons_self) (.here List.mem_cons_self)
  have notSchema : Generation.list.typeName ("/".intercalate ["files", "size"]) ≠ "dc" := by
    decide +kernel
  refine ⟨once, loaded, apart, declaredAt, rfl, notSchema, ?_⟩
  rcases load_generates_types once (run_eq_ok loaded) List.mem_cons_self with
    ⟨sole, -, generates⟩
  rcases generates ["files", "size"] size declaredAt .list rfl with
    ⟨reference, blueprint, id, used, generated, new, built, means⟩
  exact ⟨reference, blueprint, id, used, generated, new, built, means
    (sole apart _ size declaredAt .list rfl) notSchema fun same => absurd same (by decide)⟩

/-- A separator in a name lets two fields share a type: that of the field before is lost. -/
theorem load_confuses_generated_types :
    let first : FieldDefinition := { fields := [("x", { typeName := some "string" })] }
    let second : FieldDefinition := { fields := [("y", { typeName := some "string" })] }
    let definition : SchemaDefinition := {
      fields := [("a/b", first), ("a", { fields := [("b", second)] })] }
    let document : SchemaDocument := { schemas := [("dc", definition)] }
    let after := ((load document).run.run .initial).2
    let scope := schemaScope Store.initial.registry Store.initial.registryId "dc" definition
    document.NamesOnce ∧ ((load document).run.run .initial).1 = .ok () ∧
    DeclaredAt definition.fields ["a/b"] first ∧ DeclaredAt definition.fields ["a", "b"] second ∧
    Generation.nested.Applies first ∧ Generation.nested.Applies second ∧
    Generation.nested.reference? scope ("/".intercalate ["a/b"]) first =
      Generation.nested.reference? scope ("/".intercalate ["a", "b"]) second ∧
    ((Generation.nested.reference? scope "a/b" first).bind fun reference =>
      (after.resolve reference).bind fun id => (after.complexAt? id).map fun complex =>
        complex.fields.keys) = some [⟨"", "y"⟩] := by
  intro first second definition document after scope
  have names : FieldNames (fun _ => True) definition.fields :=
    .cons trivial (by decide) (.cons trivial (by decide) .nil .nil)
      (.cons trivial (by decide) (.cons trivial (by decide)
        (.cons trivial (by decide) .nil .nil) .nil) .nil)
  exact ⟨.of_sole (by decide) names (by decide), by decide +kernel, .here List.mem_cons_self,
    .inside (List.mem_cons_of_mem _ List.mem_cons_self) (.here List.mem_cons_self),
    List.cons_ne_nil _ _, List.cons_ne_nil _ _, rfl, by decide +kernel⟩

end Attempt
end DocumentTypes
