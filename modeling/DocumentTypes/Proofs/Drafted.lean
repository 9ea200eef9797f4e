import DocumentTypes.Proofs.Drafting
import Mathlib.Data.List.Forall2

/-! # Rules of drafting

A schema is drafted by a walk over its types and fields that adds to a draft. What the walk
arrives at, if it does, is said here by rules, without the draft that it began with. -/

namespace DocumentTypes

/-! ## Lists side by side -/

section

variable {α β : Type} {related : α → β → Prop} {left : List α} {right : List β}

theorem exists_right_of_forall₂ (both : List.Forall₂ related left right) {value : α}
    (member : value ∈ left) : ∃ other ∈ right, related value other := by
  induction both with
  | nil => cases member
  | @cons first second _ _ here _ induction =>
      rcases List.mem_cons.mp member with rfl | later
      · exact ⟨second, List.mem_cons_self, here⟩
      · rcases induction later with ⟨other, otherMember, holds⟩
        exact ⟨other, List.mem_cons_of_mem _ otherMember, holds⟩

theorem exists_left_of_forall₂ (both : List.Forall₂ related left right) {value : β}
    (member : value ∈ right) : ∃ other ∈ left, related other value := by
  have flipped : List.Forall₂ (flip related) right left := List.Forall₂.flip both
  exact exists_right_of_forall₂ flipped member

theorem map_eq_of_forall₂ {γ : Type} {first : α → γ} {second : β → γ}
    (both : List.Forall₂ related left right)
    (same : ∀ value other, related value other → first value = second other) :
    left.map first = right.map second := by
  induction both with
  | nil => rfl
  | cons here _ induction => rw [List.map_cons, List.map_cons, same _ _ here, induction]

theorem filterMap_eq_of_forall₂ {γ : Type} {first : α → Option γ} {second : β → Option γ}
    (same : List.Forall₂ (fun value other => first value = second other) left right) :
    left.filterMap first = right.filterMap second := by
  induction same with
  | nil => rfl
  | cons here _ induction => rw [List.filterMap_cons, List.filterMap_cons, here, induction]

end

/-! ## Names -/

def Scope.meaning? (scope : Scope) (name : String) : Option TypeName :=
  match splitOnce? ':' name with
  | some (schema, rest) => some ⟨schema, rest⟩
  | none =>
    if scope.declared.contains name || scope.registry.types.contains ⟨scope.schema, name⟩ then
      some ⟨scope.schema, name⟩
    else if (PrimitiveKind.ofName? name).isSome then some ⟨primitiveSchema, name⟩
    else none

def qualifiedNames (name : String) : List TypeName :=
  match splitOnce? ':' name with
  | some (schema, rest) => [⟨schema, rest⟩]
  | none => []

/-! ## Drafts one after the other -/

namespace Draft

def empty : Draft := ⟨[], []⟩

instance : Append Draft where
  append first second := ⟨first.types ++ second.types, first.qualified ++ second.qualified⟩

variable (first second third : Draft)

@[simp] theorem types_append : (first ++ second).types = first.types ++ second.types := rfl

@[simp] theorem append_empty : first ++ empty = first := by
  change (⟨first.types ++ [], first.qualified ++ []⟩ : Draft) = first
  rw [List.append_nil, List.append_nil]

@[simp] theorem append_assoc : first ++ second ++ third = first ++ (second ++ third) := by
  change (⟨first.types ++ second.types ++ third.types,
    first.qualified ++ second.qualified ++ third.qualified⟩ : Draft) = _
  rw [List.append_assoc, List.append_assoc]
  rfl

end Draft

namespace Drafting

variable {α β : Type} {before after : Draft}

theorem run_bind_ok_iff {first : Drafting α} {next : α → Drafting β} {result : β} :
    (first >>= next).run before = .ok (result, after) ↔
      ∃ answer middle, first.run before = .ok (answer, middle) ∧
        (next answer).run middle = .ok (result, after) := by
  constructor
  · exact run_bind_ok
  · rintro ⟨answer, middle, firstRun, nextRun⟩
    change (first.run before >>= fun outcome => (next outcome.1).run outcome.2) = _
    rw [firstRun]
    exact nextRun

theorem run_addType (blueprint : Blueprint) (before : Draft) :
    (addType blueprint).run before = .ok ((), before ++ ⟨[blueprint], []⟩) := by
  change Except.ok ((), { before with types := before.types ++ [blueprint] }) =
    Except.ok ((), (⟨before.types ++ [blueprint], before.qualified ++ []⟩ : Draft))
  rw [List.append_nil]

theorem run_resolve_ok_iff {scope : Scope} {name : String} {reference : TypeRef} :
    (resolve scope name).run before = .ok (reference, after) ↔
      ∃ target, scope.meaning? name = some target ∧
        reference = .named scope.registryId target ∧
        after = before ++ ⟨[], qualifiedNames name⟩ := by
  have unchanged : before ++ ⟨[], []⟩ = before := before.append_empty
  unfold resolve Scope.meaning? qualifiedNames
  cases splitOnce? ':' name with
  | some parts =>
      rcases parts with ⟨schema, rest⟩
      have noted : before ++ ⟨[], [⟨schema, rest⟩]⟩ =
          { before with qualified := before.qualified ++ [⟨schema, rest⟩] } := by
        change (⟨before.types ++ [], _⟩ : Draft) = _
        rw [List.append_nil]
      constructor
      · intro succeeds
        cases succeeds
        exact ⟨_, rfl, rfl, noted.symm⟩
      · rintro ⟨target, named, rfl, rfl⟩
        cases named
        dsimp only
        rw [noted]
        rfl
  | none =>
      dsimp only
      rw [unchanged]
      split
      · constructor
        · intro succeeds
          cases succeeds
          exact ⟨_, rfl, rfl, rfl⟩
        · rintro ⟨target, named, rfl, rfl⟩
          cases named
          rfl
      · split
        · constructor
          · intro succeeds
            cases succeeds
            exact ⟨_, rfl, rfl, rfl⟩
          · rintro ⟨target, named, rfl, rfl⟩
            cases named
            rfl
        · constructor
          · intro succeeds
            cases succeeds
          · rintro ⟨target, named, -⟩
            cases named

/-! ## Simple types -/

/-- The type that a declaration describes, if its base means something and its pattern can
be read. -/
def simpleBlueprint? (scope : Scope) (name : String) (definition : SimpleTypeDefinition) :
    Option Blueprint :=
  (scope.meaning? definition.base).bind fun target =>
    (constraints definition).toOption.map fun constraints => {
      name := ⟨scope.schema, name⟩
      base := .named scope.registryId target
      flags := if definition.notNull then DocumentType.notNullFlag else 0
      body := .simple constraints }

theorem simpleBlueprint?_eq_some_iff {scope : Scope} {name : String}
    {definition : SimpleTypeDefinition} {blueprint : Blueprint} :
    simpleBlueprint? scope name definition = some blueprint ↔
      ∃ target constraints, scope.meaning? definition.base = some target ∧
        Drafting.constraints definition = .ok constraints ∧ blueprint = {
          name := ⟨scope.schema, name⟩
          base := .named scope.registryId target
          flags := if definition.notNull then DocumentType.notNullFlag else 0
          body := .simple constraints } := by
  unfold simpleBlueprint?
  cases scope.meaning? definition.base with
  | none => simp
  | some target =>
      cases Drafting.constraints definition with
      | error failure => simp [Except.toOption]
      | ok constraints =>
          constructor
          · intro drafted
            exact ⟨target, constraints, rfl, rfl, (Option.some.inj drafted).symm⟩
          · rintro ⟨_, _, meant, read, rfl⟩
            cases meant
            cases read
            rfl

theorem simpleBlueprint?_name {scope : Scope} {name : String} {definition : SimpleTypeDefinition}
    {blueprint : Blueprint} (drafted : simpleBlueprint? scope name definition = some blueprint) :
    blueprint.name = ⟨scope.schema, name⟩ := by
  rcases simpleBlueprint?_eq_some_iff.mp drafted with ⟨target, constraints, -, -, rfl⟩
  rfl

theorem run_simpleType_ok_iff {scope : Scope} {name : String}
    {definition : SimpleTypeDefinition} :
    (simpleType scope name definition).run before = .ok ((), after) ↔
      ∃ blueprint, simpleBlueprint? scope name definition = some blueprint ∧
        after = before ++ ⟨[blueprint], qualifiedNames definition.base⟩ := by
  have order (blueprint : Blueprint) (used : List TypeName) :
      before ++ ⟨[], used⟩ ++ ⟨[blueprint], []⟩ = before ++ ⟨[blueprint], used⟩ := by
    change (⟨before.types ++ [] ++ [blueprint], before.qualified ++ used ++ []⟩ : Draft) = _
    rw [List.append_nil, List.append_nil]
    rfl
  unfold simpleType
  rw [run_bind_ok_iff]
  constructor
  · rintro ⟨reference, middle, resolved, later⟩
    rcases run_resolve_ok_iff.mp resolved with ⟨target, meant, rfl, rfl⟩
    rcases run_bind_ok later with ⟨constraints, _, read, added⟩
    rw [run_addType] at added
    cases added
    cases outcome : Drafting.constraints definition with
    | error failure =>
        rw [outcome] at read
        cases read
    | ok _ =>
        rw [outcome] at read
        cases read
        exact ⟨_, simpleBlueprint?_eq_some_iff.mpr ⟨target, constraints, meant, outcome, rfl⟩,
          order _ _⟩
  · rintro ⟨blueprint, drafted, rfl⟩
    rcases simpleBlueprint?_eq_some_iff.mp drafted with ⟨target, constraints, meant, read, rfl⟩
    refine ⟨_, _, run_resolve_ok_iff.mpr ⟨target, meant, rfl, rfl⟩, ?_⟩
    rw [read, ← order]
    exact run_addType _ _

theorem run_simpleTypes_ok_iff {scope : Scope}
    {definitions : List (String × SimpleTypeDefinition)} :
    (definitions.forM fun entry => simpleType scope entry.1 entry.2).run before =
        .ok ((), after) ↔
      ∃ blueprints, List.Forall₂ (fun entry blueprint =>
          simpleBlueprint? scope entry.1 entry.2 = some blueprint) definitions blueprints ∧
        after = before ++
          ⟨blueprints, definitions.flatMap fun entry => qualifiedNames entry.2.base⟩ := by
  induction definitions generalizing before with
  | nil =>
      constructor
      · intro succeeds
        cases succeeds
        exact ⟨[], .nil, (Draft.append_empty _).symm⟩
      · rintro ⟨blueprints, drafted, rfl⟩
        cases drafted
        have unchanged := before.append_empty
        exact congrArg (fun draft : Draft => Except.ok ((), draft)) unchanged.symm
  | cons entry rest induction =>
      have order (blueprint : Blueprint) (types : List Blueprint) (used : List TypeName) :
          before ++ ⟨[blueprint], qualifiedNames entry.2.base⟩ ++ ⟨types, used⟩ =
            before ++ ⟨blueprint :: types, qualifiedNames entry.2.base ++ used⟩ := by
        rw [Draft.append_assoc]
        rfl
      refine run_bind_ok_iff.trans ⟨?_, ?_⟩
      · rintro ⟨_, middle, first, others⟩
        rcases run_simpleType_ok_iff.mp first with ⟨blueprint, drafted, rfl⟩
        rcases induction.mp others with ⟨blueprints, restDrafted, rfl⟩
        exact ⟨blueprint :: blueprints, .cons drafted restDrafted, order _ _ _⟩
      · rintro ⟨_, drafted, rfl⟩
        cases drafted with
        | cons first others =>
            refine ⟨(), _, run_simpleType_ok_iff.mpr ⟨_, first, rfl⟩, ?_⟩
            exact induction.mpr ⟨_, others, (order _ _ _).symm⟩

/-! ## Fields -/

/-- The type of a list of items, if a field is a list. -/
def listTypes (scope : Scope) (path : String) (field : FieldDefinition) (item : TypeRef) :
    List Blueprint :=
  if field.isList then [{
    name := ⟨scope.schema, listTypeName path⟩
    body := .list item field.itemName field.defaultText? (field.minOccurs.getD 0)
      (field.maxOccurs.getD unbounded) }]
  else []

def valueReference (scope : Scope) (path : String) (field : FieldDefinition) (item : TypeRef) :
    TypeRef :=
  if field.isList then .named scope.registryId ⟨scope.schema, listTypeName path⟩ else item

theorem run_repeated (scope : Scope) (path : String) (field : FieldDefinition) (item : TypeRef)
    (before : Draft) : (repeated scope path field item).run before =
      .ok (valueReference scope path field item,
        before ++ ⟨listTypes scope path field item, []⟩) := by
  unfold repeated valueReference listTypes
  cases field.isList with
  | false => exact congrArg (fun draft : Draft => Except.ok (item, draft)) before.append_empty.symm
  | true =>
      simp only [Bool.not_true, Bool.false_eq_true, if_false, if_true]
      exact run_bind_ok_iff.mpr ⟨(), _, run_addType _ _, rfl⟩

/-- Fields whose paths begin in the same way are drafted to their declarations and to the
types that they need. -/
inductive FieldsDrafted (scope : Scope) (space : Namespace) :
    String → List (String × FieldDefinition) → List FieldDeclaration → Draft → Prop
  | nil (leading : String) : FieldsDrafted scope space leading [] [] .empty
  /-- A field without fields of its own has a type by name. -/
  | named {leading name typeName : String} {field : FieldDefinition} {target : TypeName}
      {rest : List (String × FieldDefinition)} {declarations : List FieldDeclaration}
      {others : Draft} (plain : field.fields = []) (typed : field.typeName = some typeName)
      (meant : scope.meaning? typeName = some target)
      (later : FieldsDrafted scope space leading rest declarations others) :
      FieldsDrafted scope space leading ((name, field) :: rest)
        (declaration name field (valueReference scope (leading ++ name) field
          (.named scope.registryId target)) :: declarations)
        (⟨listTypes scope (leading ++ name) field (.named scope.registryId target),
          qualifiedNames typeName⟩ ++ others)
  /-- Fields of its own make a type behind the mark. -/
  | nested {leading name : String} {field : FieldDefinition}
      {rest : List (String × FieldDefinition)} {own declarations : List FieldDeclaration}
      {inner others : Draft} (given : field.fields ≠ [])
      (inside : FieldsDrafted scope space (leading ++ name ++ "/") field.fields own inner)
      (later : FieldsDrafted scope space leading rest declarations others) :
      FieldsDrafted scope space leading ((name, field) :: rest)
        (declaration name field (valueReference scope (leading ++ name) field
          (.named scope.registryId ⟨scope.schema, nestedTypeName (leading ++ name)⟩)) ::
            declarations)
        (inner ++ ⟨{
          name := ⟨scope.schema, nestedTypeName (leading ++ name)⟩
          body := .complex space none own } :: listTypes scope (leading ++ name) field
            (.named scope.registryId ⟨scope.schema, nestedTypeName (leading ++ name)⟩), []⟩ ++
          others)

mutual

theorem drafted_of_run_fieldType (scope : Scope) (space : Namespace) (path : String)
    {before after : Draft} {reference : TypeRef} : ∀ field : FieldDefinition,
      (fieldType scope space path field).run before = .ok (reference, after) →
      ∃ draft, after = before ++ draft ∧
        ∀ {leading name : String} {rest : List (String × FieldDefinition)}
          {declarations : List FieldDeclaration} {others : Draft},
          path = leading ++ name → FieldsDrafted scope space leading rest declarations others →
          FieldsDrafted scope space leading ((name, field) :: rest)
            (declaration name field reference :: declarations) (draft ++ others)
  | .mk typeName fields isList itemName default nillable constant minOccurs maxOccurs => by
      intro succeeds
      unfold fieldType at succeeds
      dsimp only at succeeds
      split at succeeds
      next empty =>
        cases typeName with
        | none =>
            rcases run_bind_ok succeeds with ⟨_, _, impossible, -⟩
            cases impossible
        | some typeName =>
            rcases run_bind_ok succeeds with ⟨item, middle, resolved, repeats⟩
            rcases run_resolve_ok_iff.mp resolved with ⟨target, meant, rfl, rfl⟩
            rw [run_repeated] at repeats
            cases repeats
            have order (types : List Blueprint) (used : List TypeName) :
                before ++ ⟨[], used⟩ ++ ⟨types, []⟩ = before ++ ⟨types, used⟩ := by
              rw [Draft.append_assoc]
              exact congrArg (fun names => before ++ Draft.mk types names) (List.append_nil used)
            refine ⟨_, order _ _, ?_⟩
            rintro leading name rest declarations others rfl later
            exact .named (List.isEmpty_iff.mp empty) rfl meant later
      next given =>
        rcases run_bind_ok succeeds with ⟨own, inner, ownRun, succeeds⟩
        rcases run_bind_ok succeeds with ⟨_, added, addedRun, succeeds⟩
        rcases run_bind_ok succeeds with ⟨item, same, itemRun, repeats⟩
        cases itemRun
        rw [run_addType] at addedRun
        cases addedRun
        rw [run_repeated] at repeats
        cases repeats
        rcases drafted_of_run_declarations scope space (path ++ "/") fields ownRun with
          ⟨innerDraft, rfl, inside⟩
        refine ⟨innerDraft ++ ⟨[_], []⟩ ++ ⟨_, []⟩, by rw [Draft.append_assoc, Draft.append_assoc,
          Draft.append_assoc], ?_⟩
        rintro leading name rest declarations others rfl later
        rw [Draft.append_assoc innerDraft]
        exact .nested (fun none => given (List.isEmpty_iff.mpr none)) inside later

theorem drafted_of_run_declarations (scope : Scope) (space : Namespace) (leading : String)
    {before after : Draft} {declared : List FieldDeclaration} :
    ∀ fields : List (String × FieldDefinition),
      (declarations scope space leading fields).run before = .ok (declared, after) →
      ∃ draft, after = before ++ draft ∧ FieldsDrafted scope space leading fields declared draft
  | [] => by
      intro succeeds
      cases succeeds
      exact ⟨.empty, before.append_empty.symm, .nil leading⟩
  | (name, field) :: rest => by
      intro succeeds
      unfold declarations at succeeds
      rcases run_bind_ok succeeds with ⟨reference, middle, fieldRun, succeeds⟩
      rcases run_bind_ok succeeds with ⟨others, last, restRun, succeeds⟩
      cases succeeds
      rcases drafted_of_run_fieldType scope space (leading ++ name) field fieldRun with
        ⟨draft, rfl, prepend⟩
      rcases drafted_of_run_declarations scope space leading rest restRun with
        ⟨later, rfl, restDrafted⟩
      exact ⟨draft ++ later, Draft.append_assoc .., prepend rfl restDrafted⟩

end

theorem run_fieldType_named {scope : Scope} {field : FieldDefinition} {typeName : String}
    {target : TypeName} (plain : field.fields = []) (typed : field.typeName = some typeName)
    (meant : scope.meaning? typeName = some target) (space : Namespace) (path : String)
    (before : Draft) : (fieldType scope space path field).run before =
      .ok (valueReference scope path field (.named scope.registryId target),
        before ++ ⟨listTypes scope path field (.named scope.registryId target),
          qualifiedNames typeName⟩) := by
  rcases field with ⟨_, _, _, _, _, _, _, _, _⟩
  cases plain
  cases typed
  have order (types : List Blueprint) (used : List TypeName) :
      before ++ ⟨types, used⟩ = before ++ ⟨[], used⟩ ++ ⟨types, []⟩ := by
    rw [Draft.append_assoc]
    exact congrArg (fun names => before ++ Draft.mk types names) (List.append_nil used).symm
  unfold fieldType
  rw [order]
  refine run_bind_ok_iff.mpr ⟨_, _, run_resolve_ok_iff.mpr ⟨target, meant, rfl, rfl⟩, ?_⟩
  exact run_repeated _ _ _ _ _

theorem run_fieldType_nested {scope : Scope} {space : Namespace} {path : String}
    {field : FieldDefinition} (given : field.fields ≠ []) {own : List FieldDeclaration}
    {before inner : Draft}
    (inside : (declarations scope space (path ++ "/") field.fields).run before =
      .ok (own, inner)) :
    (fieldType scope space path field).run before =
      .ok (valueReference scope path field (.named scope.registryId
          ⟨scope.schema, nestedTypeName path⟩),
        inner ++ ⟨{
          name := ⟨scope.schema, nestedTypeName path⟩
          body := .complex space none own } :: listTypes scope path field
            (.named scope.registryId ⟨scope.schema, nestedTypeName path⟩), []⟩) := by
  rcases field with ⟨_, fields, _, _, _, _, _, _, _⟩
  have notEmpty : fields.isEmpty = false := by
    cases fields with
    | nil => exact absurd rfl given
    | cons => rfl
  have order (blueprint : Blueprint) (types : List Blueprint) :
      inner ++ ⟨blueprint :: types, []⟩ = inner ++ ⟨[blueprint], []⟩ ++ ⟨types, []⟩ := by
    rw [Draft.append_assoc]
    rfl
  unfold fieldType
  simp only [notEmpty, Bool.false_eq_true, if_false]
  rw [order]
  refine run_bind_ok_iff.mpr ⟨own, inner, inside, ?_⟩
  refine run_bind_ok_iff.mpr ⟨(), _, run_addType _ _, ?_⟩
  exact run_repeated _ _ _ _ _

/-- Whatever the rules admit is drafted by the walk. -/
theorem FieldsDrafted.run {scope : Scope} {space : Namespace} {leading : String}
    {fields : List (String × FieldDefinition)} {declared : List FieldDeclaration} {draft : Draft}
    (drafted : FieldsDrafted scope space leading fields declared draft) (before : Draft) :
    (declarations scope space leading fields).run before = .ok (declared, before ++ draft) := by
  induction drafted generalizing before with
  | nil leading =>
      exact congrArg (fun draft : Draft => Except.ok ([], draft)) before.append_empty.symm
  | named plain typed meant later induction =>
      unfold declarations
      rw [← Draft.append_assoc]
      refine run_bind_ok_iff.mpr ⟨_, _, run_fieldType_named plain typed meant _ _ _, ?_⟩
      exact run_bind_ok_iff.mpr ⟨_, _, induction _, rfl⟩
  | nested given inside later inductionInside induction =>
      unfold declarations
      rw [← Draft.append_assoc, ← Draft.append_assoc]
      refine run_bind_ok_iff.mpr ⟨_, _, run_fieldType_nested given (inductionInside _), ?_⟩
      exact run_bind_ok_iff.mpr ⟨_, _, induction _, rfl⟩

theorem run_declarations_ok_iff {scope : Scope} {space : Namespace} {leading : String}
    {fields : List (String × FieldDefinition)} {declared : List FieldDeclaration} :
    (declarations scope space leading fields).run before = .ok (declared, after) ↔
      ∃ draft, FieldsDrafted scope space leading fields declared draft ∧
        after = before ++ draft := by
  constructor
  · intro succeeds
    rcases drafted_of_run_declarations scope space leading fields succeeds with
      ⟨draft, rfl, drafted⟩
    exact ⟨draft, drafted, rfl⟩
  · rintro ⟨draft, drafted, rfl⟩
    exact drafted.run before

/-! ## Schemas -/

def schemaScope (registry : Registry) (registryId : RegistryId) (name : String)
    (definition : SchemaDefinition) : Scope where
  schema := name
  declared := definition.types.map Prod.fst
  registry
  registryId

/-- A schema is drafted to a plan and to the qualified names that it uses. -/
inductive SchemaDrafted (registry : Registry) (registryId : RegistryId) (name : String)
    (definition : SchemaDefinition) : SchemaPlan × List TypeName → Prop
  | intro {blueprints : List Blueprint} {declared : List FieldDeclaration} {draft : Draft}
      (unmarked : ∀ entry ∈ definition.types, Failure.anonymousMark ∉ entry.1.toList)
      (types : List.Forall₂ (fun entry blueprint => simpleBlueprint?
        (schemaScope registry registryId name definition) entry.1 entry.2 = some blueprint)
        definition.types blueprints)
      (fields : FieldsDrafted (schemaScope registry registryId name definition)
        definition.space "" definition.fields declared draft) :
      SchemaDrafted registry registryId name definition
        (⟨name, blueprints ++ draft.types, {
          name := ⟨name, name⟩
          body := .complex definition.space none declared }⟩,
        definition.types.flatMap (fun entry => qualifiedNames entry.2.base) ++ draft.qualified)

theorem checkNames_ok_iff {name : String} {definition : SchemaDefinition} :
    checkNames name definition = .ok () ↔
      ∀ entry ∈ definition.types, Failure.anonymousMark ∉ entry.1.toList := by
  unfold checkNames
  cases marked : definition.types.find? fun entry =>
      entry.1.toList.contains Failure.anonymousMark with
  | none =>
      have unmarked := List.find?_eq_none.mp marked
      exact ⟨fun _ entry member contained =>
        unmarked entry member (List.contains_iff_mem.mpr contained), fun _ => rfl⟩
  | some entry =>
      constructor
      · intro passes
        cases passes
      · intro unmarked
        have contained := List.find?_some marked
        exact absurd (List.contains_iff_mem.mp contained)
          (unmarked entry (List.mem_of_find?_eq_some marked))

theorem schema_ok_iff {registry : Registry} {registryId : RegistryId} {name : String}
    {definition : SchemaDefinition} {result : SchemaPlan × List TypeName} :
    schema registry registryId name definition = .ok result ↔
      SchemaDrafted registry registryId name definition result := by
  let scope := schemaScope registry registryId name definition
  let body : Drafting (List FieldDeclaration) := do
    definition.types.forM fun entry => simpleType scope entry.1 entry.2
    declarations scope definition.space "" definition.fields
  have opened : schema registry registryId name definition =
      (checkNames name definition).bind fun _ => (body.run ⟨[], []⟩).bind fun outcome =>
        .ok (⟨name, outcome.2.types, {
          name := ⟨name, name⟩
          body := .complex definition.space none outcome.1 }⟩, outcome.2.qualified) := rfl
  rw [opened]
  constructor
  · intro succeeds
    cases passes : checkNames name definition with
    | error failure =>
        rw [passes] at succeeds
        cases succeeds
    | ok _ =>
        rw [passes] at succeeds
        cases drafted : body.run ⟨[], []⟩ with
        | error failure =>
            change (body.run ⟨[], []⟩).bind _ = _ at succeeds
            rw [drafted] at succeeds
            cases succeeds
        | ok outcome =>
            change (body.run ⟨[], []⟩).bind _ = _ at succeeds
            rw [drafted] at succeeds
            cases succeeds
            rcases run_bind_ok drafted with ⟨_, middle, typesRun, fieldsRun⟩
            rcases run_simpleTypes_ok_iff.mp typesRun with ⟨blueprints, types, rfl⟩
            rcases run_declarations_ok_iff.mp fieldsRun with ⟨draft, fields, rest⟩
            rw [rest]
            exact .intro (checkNames_ok_iff.mp passes) types fields
  · rintro ⟨unmarked, types, fields⟩
    have typesRun : (definition.types.forM fun entry =>
        simpleType scope entry.1 entry.2).run ⟨[], []⟩ = .ok ((), _) :=
      run_simpleTypes_ok_iff.mpr ⟨_, types, rfl⟩
    have drafted : body.run ⟨[], []⟩ = _ := run_bind_ok_iff.mpr ⟨(), _, typesRun, fields.run _⟩
    rw [checkNames_ok_iff.mpr unmarked]
    change (body.run ⟨[], []⟩).bind _ = _
    rw [drafted]
    rfl

theorem SchemaDrafted.unique {registry : Registry} {registryId : RegistryId} {name : String}
    {definition : SchemaDefinition} {first second : SchemaPlan × List TypeName}
    (one : SchemaDrafted registry registryId name definition first)
    (other : SchemaDrafted registry registryId name definition second) : first = second :=
  Except.ok.inj ((schema_ok_iff.mpr one).symm.trans (schema_ok_iff.mpr other))

/-! ## The names of generated types -/

theorem mark_mem_nestedTypeName (path : String) :
    Failure.anonymousMark ∈ (nestedTypeName path).toList := by
  unfold nestedTypeName
  rw [String.toList_append, String.toList_singleton]
  exact List.mem_cons_self

/-- No name without the mark is that of a generated type. -/
theorem ne_nestedTypeName {name : String} (unmarked : Failure.anonymousMark ∉ name.toList)
    (path : String) : name ≠ nestedTypeName path := by
  rintro rfl
  exact unmarked (mark_mem_nestedTypeName path)

theorem listTypeName_eq (path : String) : ∃ rest, listTypeName path = nestedTypeName rest := by
  refine ⟨path ++ (String.singleton Failure.anonymousMark ++ "list"), ?_⟩
  unfold listTypeName nestedTypeName
  rw [String.append_assoc, String.append_assoc]

theorem FieldsDrafted.generated {scope : Scope} {space : Namespace} {leading : String}
    {fields : List (String × FieldDefinition)} {declared : List FieldDeclaration} {draft : Draft}
    (drafted : FieldsDrafted scope space leading fields declared draft) :
    ∀ blueprint ∈ draft.types, ∃ path, blueprint.name = ⟨scope.schema, nestedTypeName path⟩ ∧
      blueprint.base = .null := by
  have lists : ∀ path field item, ∀ blueprint ∈ listTypes scope path field item,
      ∃ rest, blueprint.name = ⟨scope.schema, nestedTypeName rest⟩ ∧ blueprint.base = .null := by
    intro path field item blueprint member
    unfold listTypes at member
    split at member
    · rcases listTypeName_eq path with ⟨rest, same⟩
      cases List.mem_singleton.mp member
      exact ⟨rest, by rw [same], rfl⟩
    · cases member
  induction drafted with
  | nil => exact fun _ member => by cases member
  | named _ _ _ _ induction =>
      intro blueprint member
      rcases List.mem_append.mp member with list | later
      · exact lists _ _ _ blueprint list
      · exact induction blueprint later
  | nested _ _ _ inside induction =>
      intro blueprint member
      rcases List.mem_append.mp member with own | later
      · rcases List.mem_append.mp own with inner | own
        · exact inside blueprint inner
        · rcases List.mem_cons.mp own with rfl | list
          · exact ⟨_, rfl, rfl⟩
          · exact lists _ _ _ blueprint list
      · exact induction blueprint later

theorem SchemaDrafted.of_mem {registry : Registry} {registryId : RegistryId} {name : String}
    {definition : SchemaDefinition} {result : SchemaPlan × List TypeName}
    (drafted : SchemaDrafted registry registryId name definition result) {blueprint : Blueprint}
    (member : blueprint ∈ result.1.types) :
    (∃ entry ∈ definition.types, simpleBlueprint? (schemaScope registry registryId name definition)
      entry.1 entry.2 = some blueprint ∧ blueprint.name = ⟨name, entry.1⟩) ∨
    ∃ path, blueprint.name = ⟨name, nestedTypeName path⟩ ∧ blueprint.base = .null := by
  rcases drafted with ⟨-, types, fields⟩
  rcases List.mem_append.mp member with declared | generated
  · rcases exists_left_of_forall₂ types declared with ⟨entry, present, here⟩
    exact .inl ⟨entry, present, here, simpleBlueprint?_name here⟩
  · exact .inr (fields.generated blueprint generated)

end Drafting
end DocumentTypes
