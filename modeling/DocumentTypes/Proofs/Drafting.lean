import DocumentTypes.Definition.Plan

/-! # Drafting

What a draft of a schema holds: types that are complete, and references whose targets
are foreseen. A target is foreseen when it is drafted, declared in the schema, noted down
as a qualified name, registered already, or a primitive. Drafting only adds to a draft, so
what is foreseen once stays foreseen. -/

namespace DocumentTypes

/-- A type has what its kind needs, and refers to nothing but what is admitted. Only
simple types derive from others. -/
def Blueprint.Refers (admitted : TypeRef → Prop) (blueprint : Blueprint) : Prop :=
  match blueprint.body with
  | .simple _ => blueprint.base.isNull = false ∧ admitted blueprint.base
  | .complex _ _ fields => blueprint.base = .null ∧ ∀ field ∈ fields, admitted field.valueType
  | .list item _ _ _ _ => blueprint.base = .null ∧ admitted item
  | .primitive _ | .composite _ => False

theorem Blueprint.Refers.mono {blueprint : Blueprint} {some others : TypeRef → Prop}
    (refers : blueprint.Refers some) (wider : ∀ reference, some reference → others reference) :
    blueprint.Refers others := by
  rcases blueprint with ⟨name, base, flags, body⟩
  cases body with
  | simple => exact ⟨refers.1, wider _ refers.2⟩
  | complex => exact ⟨refers.1, fun field member => wider _ (refers.2 field member)⟩
  | list => exact ⟨refers.1, wider _ refers.2⟩
  | primitive | composite => cases refers

namespace Drafting

variable {α β : Type} {draft before after : Draft} {answer : α}

/-! ## Successful runs -/

theorem run_bind_ok {first : Drafting α} {next : α → Drafting β} {result : β}
    (succeeds : (first >>= next).run before = .ok (result, after)) :
    ∃ answer middle, first.run before = .ok (answer, middle) ∧
      (next answer).run middle = .ok (result, after) := by
  change (first.run before >>= fun outcome => (next outcome.1).run outcome.2) = _ at succeeds
  cases outcome : first.run before with
  | error failure =>
      rw [outcome] at succeeds
      cases succeeds
  | ok pair =>
      rw [outcome] at succeeds
      exact ⟨pair.1, pair.2, rfl, succeeds⟩

theorem run_lift_ok {outcome : Except Failure α}
    (succeeds : (liftM outcome : Drafting α).run before = .ok (answer, after)) :
    after = before := by
  cases outcome with
  | error failure => cases succeeds
  | ok value =>
      cases succeeds
      rfl

/-! ## Foreseen targets -/

def Foreseen (scope : Scope) (draft : Draft) (target : TypeName) : Prop :=
  target ∈ draft.types.map Blueprint.name ∨ target ∈ draft.qualified ∨
    (target.schema = scope.schema ∧ target.name ∈ scope.declared) ∨
    scope.registry.types.contains target = true ∨
    ∃ kind : PrimitiveKind, target = ⟨primitiveSchema, kind.name⟩

/-- A reference into the registry whose target is foreseen. -/
def Covered (scope : Scope) (draft : Draft) (reference : TypeRef) : Prop :=
  ∃ target, reference = .named scope.registryId target ∧ Foreseen scope draft target

theorem Covered.isNull {scope : Scope} {reference : TypeRef}
    (covered : Covered scope draft reference) : reference.isNull = false := by
  rcases covered with ⟨target, rfl, -⟩
  rfl

def Sound (scope : Scope) (draft : Draft) : Prop :=
  ∀ blueprint ∈ draft.types, blueprint.Refers (Covered scope draft)

structure Extends (before after : Draft) : Prop where
  types : before.types ⊆ after.types
  qualified : before.qualified ⊆ after.qualified

theorem Extends.refl (draft : Draft) : Extends draft draft := ⟨fun _ => id, fun _ => id⟩

theorem Extends.trans {first second third : Draft} (before : Extends first second)
    (after : Extends second third) : Extends first third :=
  ⟨fun _ member => after.types (before.types member),
    fun _ member => after.qualified (before.qualified member)⟩

theorem Extends.names {name : TypeName} (grown : Extends before after)
    (drafted : name ∈ before.types.map Blueprint.name) :
    name ∈ after.types.map Blueprint.name := by
  rcases List.mem_map.mp drafted with ⟨blueprint, member, rfl⟩
  exact List.mem_map_of_mem (grown.types member)

theorem Covered.mono {scope : Scope} {reference : TypeRef}
    (covered : Covered scope before reference) (grown : Extends before after) :
    Covered scope after reference := by
  rcases covered with ⟨target, named, foreseen⟩
  refine ⟨target, named, ?_⟩
  rcases foreseen with drafted | qualified | others
  · exact .inl (grown.names drafted)
  · exact .inr (.inl (grown.qualified qualified))
  · exact .inr (.inr others)

/-- From a sound draft, a drafting that succeeds leads to a larger sound one. -/
def Yields (scope : Scope) (before : Draft) (drafting : Drafting α)
    (result : Draft → α → Prop) : Prop :=
  Sound scope before → ∀ answer after, drafting.run before = .ok (answer, after) →
    Extends before after ∧ Sound scope after ∧ result after answer

variable {scope : Scope} {result : Draft → α → Prop}

theorem Yields.pure {answer : α} (holds : result before answer) :
    Yields scope before (pure answer) result := by
  intro sound _ _ succeeds
  cases succeeds
  exact ⟨.refl before, sound, holds⟩

theorem Yields.throw (failure : Failure) :
    Yields scope before (throw failure : Drafting α) fun _ _ => False := by
  intro _ _ _ succeeds
  cases succeeds

theorem Yields.bind {first : Drafting β} {next : β → Drafting α} {middle : Draft → β → Prop}
    (earlier : Yields scope before first middle)
    (later : ∀ draft answer, Extends before draft → middle draft answer →
      Yields scope draft (next answer) result) : Yields scope before (first >>= next) result := by
  intro sound answer after succeeds
  rcases run_bind_ok succeeds with ⟨value, between, firstRun, nextRun⟩
  rcases earlier sound value between firstRun with ⟨grown, stillSound, holds⟩
  rcases later between value grown holds stillSound answer after nextRun with ⟨more, last, done⟩
  exact ⟨grown.trans more, last, done⟩

theorem Yields.imp {drafting : Drafting α} {stronger : Draft → α → Prop}
    (yields : Yields scope before drafting stronger)
    (weaken : ∀ draft answer, Extends before draft → stronger draft answer →
      result draft answer) :
    Yields scope before drafting result := by
  intro sound answer after succeeds
  rcases yields sound answer after succeeds with ⟨grown, stillSound, holds⟩
  exact ⟨grown, stillSound, weaken after answer grown holds⟩

theorem Yields.lift (outcome : Except Failure α) :
    Yields scope before (liftM outcome) fun _ _ => True := by
  intro sound answer after succeeds
  cases run_lift_ok succeeds
  exact ⟨.refl before, sound, trivial⟩

/-! ## Names and types -/

theorem addType_yields {blueprint : Blueprint} (refers : blueprint.Refers (Covered scope before)) :
    Yields scope before (addType blueprint) fun draft _ => blueprint ∈ draft.types := by
  intro sound _ _ succeeds
  cases succeeds
  have grown : Extends before { before with types := before.types ++ [blueprint] } :=
    ⟨fun _ member => List.mem_append_left _ member, fun _ => id⟩
  refine ⟨grown, ?_, List.mem_append_right _ (List.mem_singleton.mpr rfl)⟩
  intro other member
  rcases List.mem_append.mp member with old | new
  · exact (sound other old).mono fun _ covered => covered.mono grown
  · cases List.mem_singleton.mp new
    exact refers.mono fun _ covered => covered.mono grown

theorem resolve_yields (scope : Scope) (before : Draft) (name : String) :
    Yields scope before (resolve scope name) (Covered scope) := by
  intro sound reference after succeeds
  unfold resolve at succeeds
  split at succeeds
  next schema rest _ =>
    cases succeeds
    have grown : Extends before
        { before with qualified := before.qualified ++ [⟨schema, rest⟩] } :=
      ⟨fun _ => id, fun _ member => List.mem_append_left _ member⟩
    refine ⟨grown, fun other member => (sound other member).mono fun _ covered =>
      covered.mono grown, _, rfl, ?_⟩
    exact .inr (.inl (List.mem_append_right _ (List.mem_singleton.mpr rfl)))
  next =>
    split at succeeds
    next here =>
      cases succeeds
      refine ⟨.refl before, sound, _, rfl, ?_⟩
      rcases Bool.or_eq_true_iff.mp here with declared | registered
      · exact .inr (.inr (.inl ⟨rfl, List.contains_iff_mem.mp declared⟩))
      · exact .inr (.inr (.inr (.inl registered)))
    next =>
      split at succeeds
      next primitive =>
        cases succeeds
        rcases Option.isSome_iff_exists.mp primitive with ⟨kind, found⟩
        refine ⟨.refl before, sound, _, rfl, .inr (.inr (.inr (.inr ⟨kind, ?_⟩)))⟩
        have named := List.find?_some found
        rw [beq_iff_eq.mp named]
      next => cases succeeds

theorem simpleType_yields (scope : Scope) (before : Draft) (name : String)
    (definition : SimpleTypeDefinition) :
    Yields scope before (simpleType scope name definition)
      fun draft _ => ⟨scope.schema, name⟩ ∈ draft.types.map Blueprint.name := by
  refine .bind (resolve_yields scope before definition.base) fun draft base _ covered => ?_
  refine .bind (.lift _) fun later constraints grown _ => ?_
  have stillCovered := covered.mono grown
  refine (addType_yields ?_).imp fun _ _ _ drafted => ?_
  · exact ⟨stillCovered.isNull, stillCovered⟩
  · exact List.mem_map.mpr ⟨_, drafted, rfl⟩

theorem simpleTypes_yields (scope : Scope) (before : Draft)
    (definitions : List (String × SimpleTypeDefinition)) :
    Yields scope before (definitions.forM fun entry => simpleType scope entry.1 entry.2)
      fun draft _ => ∀ name ∈ definitions.map Prod.fst,
        ⟨scope.schema, name⟩ ∈ draft.types.map Blueprint.name := by
  induction definitions generalizing before with
  | nil => exact .pure fun _ member => by cases member
  | cons entry rest induction =>
      refine .bind (simpleType_yields scope before entry.1 entry.2) fun draft _ _ drafted => ?_
      refine (induction draft).imp fun after _ grown others name member => ?_
      rcases List.mem_cons.mp member with same | later
      · exact grown.names (same ▸ drafted)
      · exact others name later

/-! ## Fields -/

theorem covered_of_mem {blueprint : Blueprint} {name : TypeName}
    (drafted : blueprint ∈ draft.types) (named : blueprint.name = name) :
    Covered scope draft (.named scope.registryId name) :=
  ⟨name, rfl, .inl (List.mem_map.mpr ⟨blueprint, drafted, named⟩)⟩

theorem repeated_yields (path : String) (field : FieldDefinition) {item : TypeRef}
    (covered : Covered scope before item) :
    Yields scope before (repeated scope path field item) (Covered scope) := by
  unfold repeated
  split
  · exact .pure covered
  · refine .bind (addType_yields ⟨rfl, covered⟩) fun draft _ _ drafted => ?_
    exact .pure (covered_of_mem drafted rfl)

theorem valueType_declaration (name : String) (field : FieldDefinition) (valueType : TypeRef) :
    (declaration name field valueType).valueType = valueType := by
  unfold declaration
  split <;> rfl

mutual

theorem fieldType_yields (scope : Scope) (space : Namespace) (path : String)
    (before : Draft) : ∀ field : FieldDefinition,
      Yields scope before (fieldType scope space path field) (Covered scope)
  | .mk typeName fields isList itemName default nillable constant minOccurs maxOccurs => by
      unfold fieldType
      dsimp only
      split
      · cases typeName with
        | none => exact .bind (.throw _) fun _ _ _ impossible => impossible.elim
        | some name =>
            exact .bind (resolve_yields scope before name) fun _ _ _ covered =>
              repeated_yields path _ covered
      · refine .bind (declarations_yields scope space (path ++ "/") before fields)
          fun draft declared _ covered => ?_
        refine .bind (addType_yields ⟨rfl, covered⟩) fun later _ _ drafted => ?_
        exact .bind (.pure (covered_of_mem drafted rfl)) fun _ _ _ nested =>
          repeated_yields path _ nested

theorem declarations_yields (scope : Scope) (space : Namespace) (leading : String)
    (before : Draft) : ∀ fields : List (String × FieldDefinition),
      Yields scope before (declarations scope space leading fields)
        fun draft declared => ∀ field ∈ declared, Covered scope draft field.valueType
  | [] => .pure fun _ member => by cases member
  | (name, field) :: rest => by
      unfold declarations
      refine .bind (fieldType_yields scope space (leading ++ name) before field)
        fun draft valueType _ covered => ?_
      refine .bind (declarations_yields scope space leading draft rest)
        fun later declared grown others => .pure fun other member => ?_
      rcases List.mem_cons.mp member with same | old
      · rw [same, valueType_declaration]
        exact covered.mono grown
      · exact others other old

end

/-! ## Schemas -/

/-- A reference into a registry to one of the given names, to a registered type, or to a
primitive. -/
def AimsAt (registry : Registry) (registryId : RegistryId) (names : List TypeName)
    (reference : TypeRef) : Prop :=
  ∃ target, reference = .named registryId target ∧
    (target ∈ names ∨ registry.types.contains target = true ∨
      ∃ kind : PrimitiveKind, target = ⟨primitiveSchema, kind.name⟩)

theorem AimsAt.mono {registry : Registry} {registryId : RegistryId}
    {names others : List TypeName} {reference : TypeRef}
    (aims : AimsAt registry registryId names reference)
    (wider : ∀ name ∈ names, name ∈ others ∨ registry.types.contains name = true) :
    AimsAt registry registryId others reference := by
  rcases aims with ⟨target, named, known | elsewhere⟩
  · refine ⟨target, named, ?_⟩
    rcases wider target known with other | registered
    · exact .inl other
    · exact .inr (.inl registered)
  · exact ⟨target, named, .inr elsewhere⟩

theorem Covered.aimsAt {reference : TypeRef} (covered : Covered scope draft reference)
    (declared : ∀ name ∈ scope.declared,
      ⟨scope.schema, name⟩ ∈ draft.types.map Blueprint.name) :
    AimsAt scope.registry scope.registryId (draft.types.map Blueprint.name ++ draft.qualified)
      reference := by
  rcases covered with ⟨target, named, foreseen⟩
  refine ⟨target, named, ?_⟩
  rcases foreseen with drafted | qualified | ⟨schema, name⟩ | elsewhere
  · exact .inl (List.mem_append_left _ drafted)
  · exact .inl (List.mem_append_right _ qualified)
  · rcases target with ⟨targetSchema, targetName⟩
    cases schema
    exact .inl (List.mem_append_left _ (declared targetName name))
  · exact .inr elsewhere

theorem schemaBody_yields (scope : Scope) (definition : SchemaDefinition)
    (declared : scope.declared = definition.types.map Prod.fst) :
    Yields scope ⟨[], []⟩ (do
        definition.types.forM fun entry => simpleType scope entry.1 entry.2
        declarations scope definition.space "" definition.fields)
      fun draft fields =>
        (∀ field ∈ fields, Covered scope draft field.valueType) ∧
        ∀ name ∈ scope.declared, ⟨scope.schema, name⟩ ∈ draft.types.map Blueprint.name := by
  refine .bind (simpleTypes_yields scope ⟨[], []⟩ definition.types) fun draft _ _ drafted => ?_
  refine (declarations_yields scope definition.space "" draft definition.fields).imp
    fun after fields grown covered => ⟨covered, fun name member => ?_⟩
  rw [declared] at member
  exact grown.names (drafted name member)

theorem schema_refers {registry : Registry} {registryId : RegistryId} {name : String}
    {definition : SchemaDefinition} {plan : SchemaPlan} {qualified : List TypeName}
    (planned : schema registry registryId name definition = .ok (plan, qualified)) :
    (∃ space fields, plan.schema.body = .complex space none fields) ∧
    ∀ blueprint ∈ plan.types ++ [plan.schema], blueprint.Refers
      (AimsAt registry registryId (plan.types.map Blueprint.name ++ qualified)) := by
  let scope : Scope := {
    schema := name
    declared := definition.types.map Prod.fst
    registry
    registryId }
  let body : Drafting (List FieldDeclaration) := do
    definition.types.forM fun entry => simpleType scope entry.1 entry.2
    declarations scope definition.space "" definition.fields
  unfold schema at planned
  cases checked : checkNames name definition with
  | error failure =>
      rw [checked] at planned
      cases planned
  | ok _ =>
      rw [checked] at planned
      change (body.run ⟨[], []⟩ >>= _) = _ at planned
      cases drafted : body.run ⟨[], []⟩ with
      | error failure =>
          rw [drafted] at planned
          cases planned
      | ok outcome =>
          rcases outcome with ⟨fields, draft⟩
          rw [drafted] at planned
          cases planned
          rcases schemaBody_yields scope definition rfl (fun _ member => by cases member)
            fields draft drafted with ⟨-, sound, covered, declared⟩
          refine ⟨⟨definition.space, fields, rfl⟩, fun blueprint member => ?_⟩
          rcases List.mem_append.mp member with type | last
          · exact (sound blueprint type).mono fun _ aims => aims.aimsAt declared
          · cases List.mem_singleton.mp last
            exact ⟨rfl, fun field present => (covered field present).aimsAt declared⟩

end Drafting
end DocumentTypes
