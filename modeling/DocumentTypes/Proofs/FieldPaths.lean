import DocumentTypes.Proofs.FieldCache
import DocumentTypes.Proofs.GeneratedNames
import DocumentTypes.Proofs.PathSegments

/-! # Paths to declared fields

A field that a document declares, at whatever depth, is found under the path of the names
that lead to it, and shows what was declared of it. The way to it goes through generated
types, which hold the fields of a field, and through the lists of these. -/

namespace DocumentTypes

/-! ## Declared fields -/

/-- A field stands at the end of a chain of names, each of them inside the one before. -/
inductive DeclaredAt :
    List (String × FieldDefinition) → List String → FieldDefinition → Prop
  | here {fields : List (String × FieldDefinition)} {name : String} {field : FieldDefinition}
      (member : (name, field) ∈ fields) : DeclaredAt fields [name] field
  | inside {fields : List (String × FieldDefinition)} {name : String} {names : List String}
      {outer field : FieldDefinition} (member : (name, outer) ∈ fields)
      (later : DeclaredAt outer.fields names field) : DeclaredAt fields (name :: names) field

theorem DeclaredAt.admitted {fields : List (String × FieldDefinition)} {names : List String}
    {field : FieldDefinition} (declaredAt : DeclaredAt fields names field)
    {admitted : String → Prop} (fieldNames : FieldNames admitted fields) :
    ∀ name ∈ names, admitted name := by
  induction declaredAt with
  | here member =>
      intro name here
      cases List.mem_singleton.mp here
      exact (fieldNames.of_mem member).1
  | inside member _ induction =>
      have here := fieldNames.of_mem member
      exact List.forall_mem_cons.mpr ⟨here.1, induction here.2⟩

namespace FieldDeclaration

/-- The field that a type makes of a declaration without a qualifier. -/
def field (declaration : FieldDeclaration) (owner : TypeId) (serial : Nat)
    (ownerName : TypeName) (qualifier : String) : Field where
  owner
  serial
  ownerName
  name := ⟨qualifier, declaration.name⟩
  valueType := declaration.valueType
  defaultText := declaration.defaultText
  flags := declaration.flags
  minOccurs := declaration.minOccurs
  maxOccurs := declaration.maxOccurs

end FieldDeclaration

namespace ComplexType

variable {declarations : List FieldDeclaration} {declaration : FieldDeclaration}

theorem fields_declare (bare : ':' ∉ declaration.name.toList) (complex : ComplexType)
    (id : TypeId) (name : TypeName) : (complex.declare id name declaration).1.fields =
      complex.fields.put ⟨complex.space.qualifier, declaration.name⟩
        (declaration.field id complex.declared name complex.space.qualifier) := by
  unfold declare FieldDeclaration.field
  rw [QualifiedName.parse_of_bare bare]

theorem get?_declareAll_of_notMem (bare : ∀ other ∈ declarations, ':' ∉ other.name.toList)
    {text : String} (absent : text ∉ declarations.map FieldDeclaration.name)
    (complex : ComplexType) (id : TypeId) (name : TypeName) :
    (complex.declareAll id name declarations).fields.get? ⟨complex.space.qualifier, text⟩ =
      complex.fields.get? ⟨complex.space.qualifier, text⟩ := by
  induction declarations generalizing complex with
  | nil => rfl
  | cons first rest induction =>
      rw [List.map_cons, List.mem_cons, not_or] at absent
      have later := induction (fun other member => bare other (List.mem_cons_of_mem _ member))
        absent.2 (complex.declare id name first).1
      refine later.trans ?_
      rw [fields_declare (bare first List.mem_cons_self), Table.get?_put, if_neg]
      · rfl
      · exact fun same => absent.1 (congrArg QualifiedName.localName same).symm

/-- Each of the declarations is found, as long as their names are different. -/
theorem get?_declareAll (bare : ∀ other ∈ declarations, ':' ∉ other.name.toList)
    (nodup : (declarations.map FieldDeclaration.name).Nodup)
    (member : declaration ∈ declarations) (complex : ComplexType) (id : TypeId)
    (name : TypeName) : ∃ serial, (complex.declareAll id name declarations).fields.get?
      ⟨complex.space.qualifier, declaration.name⟩ =
        some (declaration.field id serial name complex.space.qualifier) := by
  induction declarations generalizing complex with
  | nil => cases member
  | cons first rest induction =>
      rw [List.map_cons, List.nodup_cons] at nodup
      have bareRest := fun other member => bare other (List.mem_cons_of_mem _ member)
      rcases List.mem_cons.mp member with rfl | later
      · refine ⟨complex.declared, ?_⟩
        have kept := get?_declareAll_of_notMem bareRest nodup.1
          (complex.declare id name declaration).1 id name
        refine kept.trans ?_
        rw [fields_declare (bare declaration List.mem_cons_self)]
        exact (Table.get?_put _ _ _ _).trans (if_pos rfl)
      · exact induction bareRest nodup.2 later (complex.declare id name first).1

theorem find?_of_bare {complex : ComplexType} {name : String} {field : Field}
    (bare : ':' ∉ name.toList)
    (found : complex.fields.get? ⟨complex.space.qualifier, name⟩ = some field) :
    complex.find? name = some field := by
  unfold find?
  rw [QualifiedName.parse_of_bare bare, found]

end ComplexType

namespace Drafting

theorem declaration_name (name : String) (definition : FieldDefinition) (valueType : TypeRef) :
    (declaration name definition valueType).name = name := by
  unfold declaration
  split <;> rfl

theorem declaration_flags (name : String) (definition : FieldDefinition) (valueType : TypeRef) :
    (declaration name definition valueType).flags = flags definition := by
  unfold declaration
  split <;> rfl

namespace FieldsDrafted

variable {scope : Scope} {space : Namespace} {leading : String}
  {fields : List (String × FieldDefinition)} {declared : List FieldDeclaration} {draft : Draft}

theorem names_eq (drafted : FieldsDrafted scope space leading fields declared draft) :
    declared.map FieldDeclaration.name = fields.map Prod.fst := by
  induction drafted with
  | nil => rfl
  | named _ _ _ _ induction => rw [List.map_cons, List.map_cons, declaration_name, induction]
  | nested _ _ _ _ induction => rw [List.map_cons, List.map_cons, declaration_name, induction]

theorem find? (drafted : FieldsDrafted scope space leading fields declared draft)
    (plain : FieldNames PlainName fields) {declaration : FieldDeclaration}
    (member : declaration ∈ declared) (id : TypeId) (ownerName : TypeName) :
    ∃ serial, (({ space, unstructured := none, fields := .empty } : ComplexType).declareAll id
      ownerName declared).find? declaration.name =
        some (declaration.field id serial ownerName space.qualifier) := by
  have bare : ∀ other ∈ declared, ':' ∉ other.name.toList := by
    intro other present
    have named := List.mem_map_of_mem (f := FieldDeclaration.name) present
    rw [drafted.names_eq] at named
    rcases List.mem_map.mp named with ⟨entry, entryMember, same⟩
    exact same ▸ (plain.of_mem entryMember).1.unqualified
  have nodup : (declared.map FieldDeclaration.name).Nodup := by
    rw [drafted.names_eq]
    exact plain.nodup
  rcases ComplexType.get?_declareAll bare nodup member
    { space, unstructured := none, fields := .empty } id ownerName with ⟨serial, found⟩
  refine ⟨serial, ComplexType.find?_of_bare (bare declaration member) ?_⟩
  rw [ComplexType.space_declareAll]
  exact found

end FieldsDrafted

/-- What is drafted of one field: its declaration, with a type that is a list of items or the
item itself, and all that its own fields need. -/
structure FieldDrafted (scope : Scope) (space : Namespace) (path : String)
    (entry : String × FieldDefinition) (declared : List FieldDeclaration)
    (types : List Blueprint) (item : TypeRef) : Prop where
  declares : declaration entry.1 entry.2 (valueReference scope path entry.2 item) ∈ declared
  lists : listTypes scope path entry.2 item ⊆ types
  nested : entry.2.fields ≠ [] →
    item = .named scope.registryId ⟨scope.schema, nestedTypeName path⟩ ∧
    ∃ own inner, FieldsDrafted scope space (path ++ "/") entry.2.fields own inner ∧
      inner.types ⊆ types ∧
      { name := ⟨scope.schema, nestedTypeName path⟩
        body := .complex space none own : Blueprint } ∈ types

theorem FieldDrafted.mono {scope : Scope} {space : Namespace} {path : String}
    {entry : String × FieldDefinition} {declared moreDeclared : List FieldDeclaration}
    {types moreTypes : List Blueprint} {item : TypeRef}
    (drafted : FieldDrafted scope space path entry declared types item)
    (declarations : declared ⊆ moreDeclared) (blueprints : types ⊆ moreTypes) :
    FieldDrafted scope space path entry moreDeclared moreTypes item where
  declares := declarations drafted.declares
  lists := List.Subset.trans drafted.lists blueprints
  nested given := by
    rcases drafted.nested given with ⟨same, own, inner, inside, innerTypes, holder⟩
    exact ⟨same, own, inner, inside, List.Subset.trans innerTypes blueprints,
      blueprints holder⟩

theorem FieldsDrafted.of_mem {scope : Scope} {space : Namespace} {leading : String}
    {fields : List (String × FieldDefinition)} {declared : List FieldDeclaration} {draft : Draft}
    (drafted : FieldsDrafted scope space leading fields declared draft)
    {entry : String × FieldDefinition} (member : entry ∈ fields) :
    ∃ item, FieldDrafted scope space (leading ++ entry.1) entry declared draft.types item := by
  induction drafted with
  | nil => cases member
  | named plain _ _ _ induction =>
      rcases List.mem_cons.mp member with rfl | later
      · exact ⟨_, List.mem_cons_self, List.subset_append_left _ _,
          fun given => absurd plain given⟩
      · rcases induction later with ⟨item, drafted⟩
        exact ⟨item, drafted.mono (List.subset_cons_self _ _) (List.subset_append_right _ _)⟩
  | @nested _ _ _ _ own _ inner _ _ inside _ _ induction =>
      rcases List.mem_cons.mp member with rfl | later
      · refine ⟨_, List.mem_cons_self, ?_, fun _ => ⟨rfl, own, inner, inside, ?_, ?_⟩⟩
        · intro blueprint list
          exact List.mem_append_left _ (List.mem_append_right _ (List.mem_cons_of_mem _ list))
        · exact fun blueprint own => List.mem_append_left _ (List.mem_append_left _ own)
        · exact List.mem_append_left _ (List.mem_append_right _ List.mem_cons_self)
      · rcases induction later with ⟨item, drafted⟩
        exact ⟨item, drafted.mono (List.subset_cons_self _ _) (List.subset_append_right _ _)⟩

end Drafting

/-! ## The way to a field -/

/-- Whatever a complex type remembers is what it would find. -/
def ComplexType.RemembersRight (complex : ComplexType) : Prop :=
  ∀ name field, complex.lookups.get? name = some field → complex.find? name = some field

namespace Store

variable {store before after : Store}

/-- The type that a reference by name means, whatever types are alive. -/
def named? (store : Store) : TypeRef → Option TypeId
  | .named registry target =>
    if registry = store.registryId then store.registry.types.get? target else none
  | .null | .schema .. | .direct .. | .owner .. => none

theorem resolve_of_named? {reference : TypeRef} {id : TypeId}
    (means : store.named? reference = some id) : store.resolve reference = some id := by
  cases reference with
  | named => exact means
  | null | schema | direct | owner => cases means

/-- The type whose fields follow a field in a path: its own, or that of its items. -/
def fieldsBehind? (store : Store) (field : Field) : Option TypeId :=
  (store.named? field.valueType).bind fun valueType =>
    match (store.type? valueType).map DocumentType.kind with
    | some (.complex _) => some valueType
    | some (.list list) => store.named? list.item.valueType
    | _ => none

/-- A chain of names leads from a type to a field. -/
inductive LeadsTo (store : Store) : TypeId → List String → Field → Prop
  | here {id : TypeId} {complex : ComplexType} {name : String} {field : Field}
      (holds : store.complexAt? id = some complex) (right : complex.RemembersRight)
      (found : complex.find? name = some field) : LeadsTo store id [name] field
  | inside {id inner : TypeId} {complex : ComplexType} {name : String} {names : List String}
      {outer field : Field} (holds : store.complexAt? id = some complex)
      (right : complex.RemembersRight) (found : complex.find? name = some outer)
      (behind : store.fieldsBehind? outer = some inner)
      (later : LeadsTo store inner names field) : LeadsTo store id (name :: names) field

/-! ## Lookups on the way -/

/-- Nothing is different but what complex types remember, and no lookup becomes wrong. -/
structure FieldsKept (before after : Store) : Prop where
  registryId_eq : after.registryId = before.registryId
  types_eq : after.registry.types = before.registry.types
  complex : ∀ id complex, before.complexAt? id = some complex →
    ∃ lookups, after.complexAt? id = some { complex with lookups } ∧
      (complex.RemembersRight → ComplexType.RemembersRight { complex with lookups })
  list : ∀ id list, (before.type? id).map DocumentType.kind = some (.list list) →
    (after.type? id).map DocumentType.kind = some (.list list)

namespace FieldsKept

theorem looked {id : TypeId} {complex : ComplexType} (holds : store.complexAt? id = some complex)
    (name : String) : store.FieldsKept (store.setKind id (.complex (complex.lookUp name).1)) where
  registryId_eq := registryId_setKind
  types_eq := by rw [registry_setKind]
  complex other present found := by
    rw [complexAt?_setKind_complex holds]
    by_cases same : other = id
    · rw [same, holds] at found
      cases found
      rcases complex.lookUp_fst name with ⟨lookups, equal⟩
      rw [if_pos same, equal]
      refine ⟨lookups, rfl, fun right => ?_⟩
      rw [← equal]
      intro key field remembered
      have found := ComplexType.lookups_lookUp right name key field remembered
      rwa [equal]
    · exact ⟨present.lookups, by rw [if_neg same, found], fun right => right⟩
  list other list kind := by
    rw [type?_setKind, if_neg]
    · exact kind
    · rintro rfl
      rw [kind_of_complexAt? holds] at kind
      cases kind

theorem setRegistry (kept : before.FieldsKept after) {registry : Registry}
    (types : registry.types = after.registry.types) :
    before.FieldsKept (after.setRegistry registry) :=
  ⟨kept.registryId_eq, types.trans kept.types_eq, kept.complex, kept.list⟩

theorem named?_eq (kept : before.FieldsKept after) (reference : TypeRef) :
    after.named? reference = before.named? reference := by
  unfold named?
  rw [kept.registryId_eq, kept.types_eq]

theorem fieldsBehind? (kept : before.FieldsKept after) {field : Field} {inner : TypeId}
    (behind : before.fieldsBehind? field = some inner) :
    after.fieldsBehind? field = some inner := by
  rcases Option.bind_eq_some_iff.mp behind with ⟨valueType, means, kinds⟩
  unfold Store.fieldsBehind?
  rw [kept.named?_eq, means, Option.bind_some]
  split at kinds
  next complex kind =>
    rcases kept.complex valueType complex (complexAt?_of_kind kind) with ⟨_, holds, -⟩
    rw [kind_of_complexAt? holds]
    exact kinds
  next list kind =>
    rw [kept.list valueType list kind]
    exact (kept.named?_eq _).trans kinds
  next => cases kinds

end FieldsKept
end Store

namespace Action

variable {store : Store}

end Action

/-! ## What a field shows -/

/-- A field shows what was declared of it. The default and the bounds of a list are shown by
the type of the list. -/
structure Store.ShowsField (store : Store) (declared : FieldDefinition) (field : Field) :
    Prop where
  nillable : field.isNillable = declared.nillable
  constant : field.isConstant = declared.constant
  single : declared.isList = false → field.defaultText = declared.defaultText? ∧
    field.minOccurs = declared.minOccurs.getD 1 ∧ field.maxOccurs = declared.maxOccurs.getD 1
  repeated : declared.isList = true → field.defaultText = none ∧
    field.minOccurs = 1 ∧ field.maxOccurs = 1 ∧
    ∃ id type list, store.resolve field.valueType = some id ∧ store.type? id = some type ∧
      type.kind = .list list ∧
      list.item.name = .parse (declared.itemName.getD arrayItemName) "" ∧
      list.isArray = declared.itemName.isNone ∧ list.defaultText = declared.defaultText? ∧
      list.minOccurs = declared.minOccurs.getD 0 ∧
      list.maxOccurs = declared.maxOccurs.getD unbounded

namespace Drafting

/-- All blueprints have been built, and their names mean what was built. -/
def Builds (registryId : RegistryId) (types : List Blueprint) (store : Store) : Prop :=
  ∀ blueprint ∈ types, ∃ id, store.named? (.named registryId blueprint.name) = some id ∧
    store.type? id = some (blueprint.builtAs id)

variable {scope : Scope} {space : Namespace} {path : String}
  {entry : String × FieldDefinition} {declared : List FieldDeclaration}
  {types : List Blueprint} {item : TypeRef} {store : Store}

namespace FieldDrafted

variable {owner : TypeId} {serial : Nat} {ownerName : TypeName} {qualifier : String}

theorem list (drafted : FieldDrafted scope space path entry declared types item)
    (built : Builds scope.registryId types store) (isList : entry.2.isList = true) :
    ∃ id type list, store.named? (valueReference scope path entry.2 item) = some id ∧
      store.type? id = some type ∧ type.kind = .list list ∧ list.item.valueType = item ∧
      list.item.name = .parse (entry.2.itemName.getD arrayItemName) "" ∧
      list.isArray = entry.2.itemName.isNone ∧ list.defaultText = entry.2.defaultText? ∧
      list.minOccurs = entry.2.minOccurs.getD 0 ∧
      list.maxOccurs = entry.2.maxOccurs.getD unbounded := by
  have lists := drafted.lists
  unfold listTypes at lists
  rw [if_pos isList] at lists
  rcases built _ (lists List.mem_cons_self) with ⟨id, means, found⟩
  rw [valueReference, if_pos isList]
  exact ⟨id, _, _, means, found, rfl, rfl, rfl, rfl, rfl, rfl, rfl⟩

theorem shows (drafted : FieldDrafted scope space path entry declared types item)
    (built : Builds scope.registryId types store) :
    store.ShowsField entry.2 ((declaration entry.1 entry.2
      (valueReference scope path entry.2 item)).field owner serial ownerName qualifier) := by
  have flagged : ∀ field : Field, field.flags = flags entry.2 →
      field.isNillable = entry.2.nillable ∧ field.isConstant = entry.2.constant := by
    intro field same
    unfold Field.isNillable Field.isConstant
    rw [same, flags]
    cases entry.2.nillable <;> cases entry.2.constant <;> decide
  have flags := flagged ((declaration entry.1 entry.2
    (valueReference scope path entry.2 item)).field owner serial ownerName qualifier)
    (declaration_flags _ _ _)
  refine ⟨flags.1, flags.2, fun single => ?_, fun isList => ?_⟩
  · unfold declaration
    rw [single]
    exact ⟨rfl, rfl, rfl⟩
  · rcases drafted.list built isList with ⟨id, type, list, means, found, kind, -, shown⟩
    unfold declaration
    rw [isList]
    exact ⟨rfl, rfl, rfl, id, type, list, Store.resolve_of_named? means, found, kind, shown⟩

end FieldDrafted

end Drafting
end DocumentTypes
