import DocumentTypes.Proofs.Drafted
import DocumentTypes.Proofs.Outcome

/-! # The outcome of a load

A load succeeds if its document can be planned, and then it leaves the store that the plan
leads to. -/

namespace DocumentTypes

/-- A plan of a document: each schema is drafted by the rules, and every qualified name that
is used is built or registered. -/
inductive Planned (registry : Registry) (registryId : RegistryId) (document : SchemaDocument) :
    Plan → Prop
  | intro {drafted : List (SchemaPlan × List TypeName)}
      (schemas : List.Forall₂ (fun entry => Drafting.SchemaDrafted registry registryId
        entry.1 entry.2) document.schemas drafted)
      (known : ∀ name ∈ drafted.flatMap Prod.snd,
        name ∈ Plan.builtNames (drafted.map Prod.fst) ∨ registry.types.contains name = true) :
      Planned registry registryId document ⟨drafted.map Prod.fst, document.facets⟩

namespace Planned

variable {registry : Registry} {registryId : RegistryId} {document : SchemaDocument} {plan : Plan}

theorem unique {other : Plan} (planned : Planned registry registryId document plan)
    (again : Planned registry registryId document other) : plan = other := by
  rcases planned with ⟨schemas, -⟩
  rcases again with ⟨others, -⟩
  have drafted := List.right_unique_forall₂' (fun _ _ _ one another => one.unique another)
    schemas others
  rw [drafted]

theorem filterMap_registrations (planned : Planned registry registryId document plan) {α : Type}
    {tell : Registration → Option α} (types : ∀ blueprint, tell (.type blueprint) = none)
    (facets : ∀ name schemas, tell (.facet name schemas) = none)
    {told : String × SchemaDefinition → Option α}
    (same : ∀ entry declared, tell (.schema {
      name := ⟨entry.1, entry.1⟩
      body := .complex entry.2.space none declared }) = told entry) :
    plan.registrations.filterMap tell = document.schemas.filterMap told := by
  cases planned with
  | @intro drafted schemas known =>
      have each : List.Forall₂ (fun entry (result : SchemaPlan × List TypeName) =>
          told entry = tell (.schema result.1.schema)) document.schemas drafted := by
        refine schemas.imp ?_
        rintro entry result ⟨-, -, -⟩
        exact (same entry _).symm
      rw [filterMap_eq_of_forall₂ each, Plan.registrations]
      simp [List.filterMap_map, Function.comp_def, types, facets]

theorem schemaNames_eq (planned : Planned registry registryId document plan) :
    Registration.schemaNames plan.registrations = document.schemas.map Prod.fst := by
  rw [← List.filterMap_eq_map]
  exact planned.filterMap_registrations (fun _ => rfl) (fun _ _ => rfl) fun _ _ => rfl

theorem claims_eq (planned : Planned registry registryId document plan) :
    Registration.claims plan.registrations = document.schemas.filterMap fun entry =>
      if entry.2.space.qualifier = "" then none
      else some (entry.2.space.qualifier, entry.1) :=
  planned.filterMap_registrations (fun _ => rfl) (fun _ _ => rfl) fun _ _ => rfl

theorem drafted (planned : Planned registry registryId document plan)
    {entry : String × SchemaDefinition} (member : entry ∈ document.schemas) :
    ∃ result, Drafting.SchemaDrafted registry registryId entry.1 entry.2 result ∧
      (∀ blueprint ∈ result.1.types, Registration.type blueprint ∈ plan.registrations) ∧
      Registration.schema result.1.schema ∈ plan.registrations := by
  rcases planned with ⟨schemas, -⟩
  rcases exists_right_of_forall₂ schemas member with ⟨result, present, drafted⟩
  have planMember := List.mem_map_of_mem (f := Prod.fst) present
  refine ⟨result, drafted, fun blueprint typeMember => ?_, ?_⟩
  · exact List.mem_append_left _ (List.mem_map_of_mem
      (List.mem_flatMap.mpr ⟨result.1, planMember, typeMember⟩))
  · exact List.mem_append_right _ (List.mem_append_left _
      (List.mem_map_of_mem (List.mem_map_of_mem planMember)))

theorem of_mem (planned : Planned registry registryId document plan) {registration : Registration}
    (member : registration ∈ plan.registrations) :
    (∃ entry ∈ document.schemas, ∃ result,
      Drafting.SchemaDrafted registry registryId entry.1 entry.2 result ∧
        ((∃ blueprint ∈ result.1.types, registration = .type blueprint) ∨
          registration = .schema result.1.schema)) ∨
    ∃ facet ∈ document.facets, registration = .facet facet.1 facet.2 := by
  rcases planned with ⟨schemas, -⟩
  rcases List.mem_append.mp member with type | other
  · rcases List.mem_map.mp type with ⟨blueprint, typeMember, rfl⟩
    rcases List.mem_flatMap.mp typeMember with ⟨entryPlan, planMember, typeMember⟩
    rcases List.mem_map.mp planMember with ⟨result, present, rfl⟩
    rcases exists_left_of_forall₂ schemas present with ⟨entry, entryMember, drafted⟩
    exact .inl ⟨entry, entryMember, result, drafted, .inl ⟨blueprint, typeMember, rfl⟩⟩
  rcases List.mem_append.mp other with schema | facet
  · rcases List.mem_map.mp schema with ⟨blueprint, schemaMember, rfl⟩
    rcases List.mem_map.mp schemaMember with ⟨entryPlan, planMember, rfl⟩
    rcases List.mem_map.mp planMember with ⟨result, present, rfl⟩
    rcases exists_left_of_forall₂ schemas present with ⟨entry, entryMember, drafted⟩
    exact .inl ⟨entry, entryMember, result, drafted, .inr rfl⟩
  · rcases List.mem_map.mp facet with ⟨entry, entryMember, rfl⟩
    exact .inr ⟨entry, entryMember, rfl⟩

theorem of_unmarked_name (planned : Planned registry registryId document plan)
    {registration : Registration} (member : registration ∈ plan.registrations)
    {schema name : String} (named : registration.typeName = ⟨schema, name⟩)
    (unmarked : Failure.anonymousMark ∉ name.toList) :
    (∃ definition, (schema, definition) ∈ document.schemas ∧
      ((∃ declaration blueprint, (name, declaration) ∈ definition.types ∧
        Drafting.simpleBlueprint? (Drafting.schemaScope registry registryId schema definition)
          name declaration = some blueprint ∧ registration = .type blueprint) ∨
        name = schema)) ∨
    (schema = facetSchema ∧ name ∈ document.facets.map Prod.fst) := by
  rcases planned.of_mem member with ⟨⟨entryName, definition⟩, entryMember, result, drafted, kinds⟩ |
    ⟨facet, facetMember, rfl⟩
  · rcases kinds with ⟨blueprint, present, rfl⟩ | rfl
    · change blueprint.name = _ at named
      rcases drafted.of_mem present with
        ⟨⟨type, declaration⟩, declared, here, typeNamed⟩ | ⟨path, generated, -⟩
      · cases typeNamed.symm.trans named
        exact .inl ⟨definition, entryMember, .inl ⟨declaration, blueprint, declared, here, rfl⟩⟩
      · cases generated.symm.trans named
        exact absurd (Drafting.mark_mem_nestedTypeName path) unmarked
    · rcases drafted with ⟨-, -, -⟩
      cases named
      exact .inl ⟨definition, entryMember, .inr rfl⟩
  · cases named
    exact .inr ⟨rfl, List.mem_map_of_mem facetMember⟩

end Planned

theorem Plan.checkQualified_ok_iff {registry : Registry} {built qualified : List TypeName} :
    checkQualified registry built qualified = .ok () ↔
      ∀ name ∈ qualified, name ∈ built ∨ registry.types.contains name = true := by
  refine ⟨checkQualified_ok, fun known => ?_⟩
  induction qualified with
  | nil => rfl
  | cons name rest induction =>
      have passes : (built.contains name || registry.types.contains name) = true :=
        Bool.or_eq_true_iff.mpr
          ((known name List.mem_cons_self).imp_left List.contains_iff_mem.mpr)
      change ((if (built.contains name || registry.types.contains name) = true then Except.ok ()
        else .error (Failure.unknownType name.schema name.name)) >>= fun _ =>
          checkQualified registry built rest) = _
      rw [if_pos passes]
      exact induction fun other member => known other (List.mem_cons_of_mem _ member)

namespace Action

theorem planSchemas_ok_iff {schemas : List (String × SchemaDefinition)} {store : Store}
    {result : List SchemaPlan × List TypeName} :
    ((planSchemas schemas).run.run store).1 = .ok result ↔
      ∃ drafted, List.Forall₂ (fun entry => Drafting.SchemaDrafted store.registry
          store.registryId entry.1 entry.2) schemas drafted ∧
        result = (drafted.map Prod.fst, drafted.flatMap Prod.snd) := by
  induction schemas generalizing store result with
  | nil =>
      constructor
      · intro planned
        cases planned
        exact ⟨[], .nil, rfl⟩
      · rintro ⟨drafted, none, rfl⟩
        cases none
        rfl
  | cons entry rest induction =>
      constructor
      · intro planned
        have planned := Attempt.run_eq_ok planned
        unfold planSchemas at planned
        rcases Attempt.ok_of_run_bind planned with ⟨current, same, got, planned⟩
        cases got
        rcases Attempt.ok_of_run_bind planned with ⟨first, middle, firstRun, planned⟩
        rw [Attempt.run_liftExcept] at firstRun
        have firstDrafted := Drafting.schema_ok_iff.mp (congrArg Prod.fst firstRun)
        cases congrArg Prod.snd firstRun
        rcases Attempt.ok_of_run_bind planned with ⟨_, noted, notedRun, planned⟩
        cases notedRun
        rcases Attempt.ok_of_run_bind planned with ⟨others, last, restRun, planned⟩
        rcases induction.mp (congrArg Prod.fst restRun) with ⟨drafted, restDrafted, rfl⟩
        cases planned
        exact ⟨first :: drafted, .cons firstDrafted restDrafted, rfl⟩
      · rintro ⟨drafted, each, rfl⟩
        cases each with
        | @cons _ first _ others firstDrafted restDrafted =>
            let noted := store.note
              (.schemaRead entry.1 entry.2.types.length entry.2.fields.length)
            have restRun := Attempt.run_eq_ok
              ((@induction noted _).mpr ⟨others, restDrafted, rfl⟩)
            have firstRun : (liftM (Drafting.schema store.registry store.registryId entry.1
                entry.2) : Attempt _).run.run store = (.ok first, store) := by
              rw [Attempt.run_liftExcept, Drafting.schema_ok_iff.mpr firstDrafted]
            have started : (liftM (get : Action Store) : Attempt _).run.run store =
              (.ok store, store) := rfl
            have notedRun : (liftM (note (.schemaRead entry.1 entry.2.types.length
                entry.2.fields.length)) : Attempt _).run.run store = (.ok (), noted) := rfl
            unfold planSchemas
            refine (congrArg Prod.fst (Attempt.run_bind_ok started _)).trans ?_
            refine (congrArg Prod.fst (Attempt.run_bind_ok firstRun _)).trans ?_
            refine (congrArg Prod.fst (Attempt.run_bind_ok notedRun _)).trans ?_
            refine (congrArg Prod.fst (Attempt.run_bind_ok restRun _)).trans ?_
            rfl

theorem plan_ok_iff {document : SchemaDocument} {store : Store} {plan : Plan} :
    ((Action.plan document).run.run store).1 = .ok plan ↔
      Planned store.registry store.registryId document plan := by
  constructor
  · intro planned
    have planned := Attempt.run_eq_ok planned
    unfold Action.plan at planned
    rcases Attempt.ok_of_run_bind planned with ⟨result, middle, schemasRun, planned⟩
    rcases planSchemas_preserves_noted store document.schemas store (.refl store) with
      ⟨notices, noted⟩
    rw [schemasRun] at noted
    cases noted
    rcases planSchemas_ok_iff.mp (congrArg Prod.fst schemasRun) with ⟨drafted, schemas, rfl⟩
    rcases Attempt.ok_of_run_bind planned with ⟨current, same, got, planned⟩
    cases got
    rcases Attempt.ok_of_run_bind planned with ⟨_, checked, passed, planned⟩
    cases planned
    exact .intro schemas (Plan.checkQualified_ok (congrArg Prod.fst passed))
  · rintro ⟨schemas, known⟩
    have schemasRun := Attempt.run_eq_ok (planSchemas_ok_iff.mpr ⟨_, schemas, rfl⟩)
    rcases planSchemas_preserves_noted store document.schemas store (.refl store) with
      ⟨notices, noted⟩
    rw [noted] at schemasRun
    have passed := Plan.checkQualified_ok_iff.mpr known
    unfold Action.plan
    refine (congrArg Prod.fst (Attempt.run_bind_ok schemasRun _)).trans ?_
    change ((liftM (Plan.checkQualified store.registry _ _) >>= fun _ =>
      (Pure.pure _ : Attempt Plan)).run.run _).1 = _
    rw [passed]
    rfl

end Action

/-! ## Loads -/

namespace Attempt

variable {document : SchemaDocument} {store after : Store}

/-- A load that succeeds has planned the document and leaves what the plan registers. -/
theorem load_entered (loaded : (load document).run.run store = (.ok (), after)) :
    ∃ plan, Planned store.registry store.registryId document plan ∧
      plan.Sound store.registry store.registryId ∧ store.Entered plan.registrations after := by
  unfold load at loaded
  rcases ok_of_run_bind loaded with ⟨plan, middle, planned, carried⟩
  have sound := Action.plan_sound planned
  rcases Action.plan_preserves_noted store document store (.refl store) with ⟨notices, noted⟩
  rw [planned] at noted
  dsimp only at noted
  rcases carryOut_entered sound middle with ⟨result, run, entered⟩
  cases run.symm.trans carried
  rw [noted] at entered
  exact ⟨plan, Action.plan_ok_iff.mp (congrArg Prod.fst planned), sound, entered.of_notices⟩

theorem load_ok_iff : (∃ after, (load document).run.run store = (.ok (), after)) ↔
    ∃ plan, Planned store.registry store.registryId document plan := by
  constructor
  · rintro ⟨after, loaded⟩
    rcases load_entered loaded with ⟨plan, planned, -⟩
    exact ⟨plan, planned⟩
  · rintro ⟨plan, planned⟩
    have planRun := run_eq_ok (Action.plan_ok_iff.mpr planned)
    rcases carryOut_entered (Action.plan_sound planRun)
      ((Action.plan document).run.run store).2 with ⟨after, carried, -⟩
    exact ⟨after, (run_bind_ok planRun _).trans carried⟩

end Attempt
end DocumentTypes
