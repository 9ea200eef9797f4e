import DocumentTypes.Proofs.DocumentNames
import DocumentTypes.Proofs.Redrafting
import DocumentTypes.Proofs.Shuffling
import Mathlib.Data.List.Nodup
import Mathlib.Data.List.Perm.Basic

/-! # Reordered documents

Documents with the same schemas and types in another order. If one of them can be planned
then so can the other, and under every name the same is registered, in the same order. -/

namespace DocumentTypes

/-! ## Documents -/

/-- The same schema with its types in another order. -/
structure SchemaDefinition.Reordered (first second : SchemaDefinition) : Prop where
  qualifier_eq : first.qualifier = second.qualifier
  uri_eq : first.uri = second.uri
  types : first.types.Perm second.types
  fields_eq : first.fields = second.fields

/-- The same document with its schemas, and the types of each, in another order. -/
structure SchemaDocument.Reordered (first second : SchemaDocument) : Prop where
  schemas : ∃ middle, first.schemas.Perm middle ∧ List.Forall₂ (fun entry other =>
    entry.1 = other.1 ∧ entry.2.Reordered other.2) middle second.schemas
  facets_eq : first.facets = second.facets

theorem SchemaDefinition.Reordered.symm {first second : SchemaDefinition}
    (reordered : first.Reordered second) : second.Reordered first :=
  ⟨reordered.qualifier_eq.symm, reordered.uri_eq.symm, reordered.types.symm,
    reordered.fields_eq.symm⟩

namespace SchemaDocument.Reordered

variable {first second : SchemaDocument}

theorem symm (reordered : first.Reordered second) : second.Reordered first := by
  rcases reordered.schemas with ⟨middle, perm, each⟩
  have back : List.Forall₂ (fun (entry other : String × SchemaDefinition) =>
      entry.1 = other.1 ∧ entry.2.Reordered other.2) second.schemas middle :=
    each.flip.imp fun _ _ same => ⟨same.1.symm, same.2.symm⟩
  have composed : Relation.Comp (List.Forall₂ fun (entry other : String × SchemaDefinition) =>
      entry.1 = other.1 ∧ entry.2.Reordered other.2) List.Perm second.schemas first.schemas :=
    ⟨middle, back, perm.symm⟩
  rw [List.forall₂_comp_perm_eq_perm_comp_forall₂] at composed
  exact ⟨composed, reordered.facets_eq.symm⟩

theorem names_perm (reordered : first.Reordered second) :
    (first.schemas.map Prod.fst).Perm (second.schemas.map Prod.fst) := by
  rcases reordered.schemas with ⟨middle, perm, each⟩
  have names : middle.map Prod.fst = second.schemas.map Prod.fst :=
    map_eq_of_forall₂ each fun _ _ same => same.1
  exact names ▸ perm.map Prod.fst

theorem of_mem (reordered : first.Reordered second) {entry : String × SchemaDefinition}
    (member : entry ∈ second.schemas) :
    ∃ other ∈ first.schemas, other.1 = entry.1 ∧ other.2.Reordered entry.2 := by
  rcases reordered.schemas with ⟨middle, perm, each⟩
  rcases exists_left_of_forall₂ each member with ⟨other, otherMember, same⟩
  exact ⟨other, perm.mem_iff.mpr otherMember, same⟩

theorem namesOnce (reordered : first.Reordered second) (once : first.NamesOnce) :
    second.NamesOnce where
  schemas := reordered.names_perm.nodup_iff.mp once.schemas
  facets := reordered.facets_eq ▸ once.facets
  types entry member := by
    rcases reordered.of_mem member with ⟨other, otherMember, -, same⟩
    exact (same.types.map Prod.fst).nodup_iff.mp (once.types other otherMember)
  fields entry member := by
    rcases reordered.of_mem member with ⟨other, otherMember, -, same⟩
    exact same.fields_eq ▸ once.fields other otherMember

end SchemaDocument.Reordered

/-! ## Plans of schemas -/

/-- Plans of one schema that have the same types under each name, in the same order. -/
structure SchemaPlan.Reordered (first second : SchemaPlan) : Prop where
  schema_eq : first.schema = second.schema
  types : ∀ name, first.types.filter (·.name = name) = second.types.filter (·.name = name)

theorem SchemaPlan.Reordered.mem_types {first second : SchemaPlan}
    (reordered : first.Reordered second) {blueprint : Blueprint} :
    blueprint ∈ first.types ↔ blueprint ∈ second.types := by
  have same := congrArg (blueprint ∈ ·) (reordered.types blueprint.name)
  simpa using same

namespace Drafting

variable {registry : Registry} {registryId : RegistryId} {name : String}
  {first second : SchemaDefinition}

theorem schemaScope_agreesOn (reordered : first.Reordered second) (mentioned : String → Prop) :
    (schemaScope registry registryId name first).AgreesOn mentioned
      (schemaScope registry registryId name second) := by
  refine ⟨rfl, rfl, fun text target _ meant => ?_⟩
  have declared : (second.types.map Prod.fst).contains text =
      (first.types.map Prod.fst).contains text := by
    rw [Bool.eq_iff_iff, List.contains_iff_mem, List.contains_iff_mem,
      (reordered.types.map Prod.fst).mem_iff]
  unfold Scope.meaning? schemaScope at meant ⊢
  dsimp only at meant ⊢
  rw [declared]
  exact meant

theorem SchemaDrafted.reordered {result : SchemaPlan × List TypeName}
    (drafted : SchemaDrafted registry registryId name first result)
    (reordered : first.Reordered second) (once : (first.types.map Prod.fst).Nodup) :
    ∃ other, SchemaDrafted registry registryId name second other ∧
      result.1.Reordered other.1 ∧ ∀ used, used ∈ result.2 ↔ used ∈ other.2 := by
  rcases drafted with @⟨blueprints, declared, draft, unmarked, types, fields⟩
  rcases List.perm_comp_forall₂ reordered.types.symm types with ⟨permuted, others, perm⟩
  have agrees (mentioned : String → Prop) : (schemaScope registry registryId name first).AgreesOn
      mentioned (schemaScope registry registryId name second) :=
    schemaScope_agreesOn reordered mentioned
  have space : first.space = second.space := by
    unfold SchemaDefinition.space
    rw [reordered.qualifier_eq, reordered.uri_eq]
  have fieldsAgain := fields.agree (agrees _)
  rw [space, reordered.fields_eq] at fieldsAgain
  have unmarkedAgain : ∀ entry ∈ second.types, Failure.anonymousMark ∉ entry.1.toList :=
    fun entry member => unmarked entry (reordered.types.mem_iff.mpr member)
  have drafted := SchemaDrafted.intro unmarkedAgain
    (others.imp fun _ _ here => simpleBlueprint?_agree here (agrees _)) fieldsAgain
  have names : (blueprints.map Blueprint.name).Nodup := by
    have named : first.types.map (fun entry => (⟨name, entry.1⟩ : TypeName)) =
        blueprints.map Blueprint.name :=
      map_eq_of_forall₂ types fun _ _ here => (simpleBlueprint?_name here).symm
    rw [← named, ← Function.comp_def (TypeName.mk name) Prod.fst, ← List.map_map]
    exact List.Nodup.map (fun _ _ same => congrArg TypeName.name same) once
  refine ⟨_, drafted, ⟨by rw [space], fun text => ?_⟩, fun used => ?_⟩
  · rw [List.filter_append, List.filter_append, filter_eq_of_perm perm.symm names]
  · rw [List.mem_append, List.mem_append, (reordered.types.flatMap_right _).mem_iff]

end Drafting

/-! ## Plans of documents -/

namespace Plan

theorem filter_registrations (schemas : List SchemaPlan) (facets : List (String × List String))
    (name : TypeName) :
    (registrations ⟨schemas, facets⟩).filter (·.typeName = name) =
      (schemas.flatMap fun plan =>
        (plan.types.filter (·.name = name)).map Registration.type) ++
      (((schemas.filter (·.schema.name = name)).map fun plan =>
        Registration.schema plan.schema) ++
      (facets.map fun facet => Registration.facet facet.1 facet.2).filter
        (·.typeName = name)) := by
  unfold registrations
  dsimp only
  rw [List.filter_append, List.filter_append, List.map_map, List.filter_map, List.filter_map,
    List.filter_flatMap, List.map_flatMap]
  rfl

theorem mem_builtNames {schemas : List SchemaPlan} {name : TypeName} :
    name ∈ builtNames schemas ↔ ∃ plan ∈ schemas,
      (∃ blueprint ∈ plan.types, blueprint.name = name) ∨ plan.schema.name = name := by
  unfold builtNames
  simp only [List.mem_flatMap, List.mem_append, List.mem_map, List.mem_singleton]
  exact exists_congr fun plan => and_congr_right fun _ => or_congr_right eq_comm

theorem filter_registrations_of_perm {first second : List SchemaPlan}
    (perm : first.Perm second) (nodup : (first.map SchemaPlan.name).Nodup)
    (schemas : ∀ plan ∈ first, plan.schema.name = ⟨plan.name, plan.name⟩)
    (types : ∀ plan ∈ first, ∀ blueprint ∈ plan.types, blueprint.name.schema = plan.name)
    (facets : List (String × List String)) (name : TypeName) :
    (registrations ⟨first, facets⟩).filter (·.typeName = name) =
      (registrations ⟨second, facets⟩).filter (·.typeName = name) := by
  have schemaNames : (first.map fun plan => plan.schema.name).Nodup := by
    rw [List.map_congr_left schemas]
    rw [← Function.comp_def (fun text => TypeName.mk text text) SchemaPlan.name, ← List.map_map]
    exact List.Nodup.map (fun _ _ same => congrArg TypeName.name same) nodup
  have elsewhere : ∀ plan ∈ first, plan.name ≠ name.schema →
      (plan.types.filter (·.name = name)).map Registration.type = [] := by
    intro plan member different
    refine List.map_eq_nil_iff.mpr (List.filter_eq_nil_iff.mpr fun blueprint present same => ?_)
    have schema := types plan member blueprint present
    rw [of_decide_eq_true same] at schema
    exact different schema.symm
  rw [filter_registrations, filter_registrations, flatMap_eq_of_perm perm nodup elsewhere,
    filter_eq_of_perm perm schemaNames]

theorem filter_registrations_of_reordered {first second : List SchemaPlan}
    (each : List.Forall₂ SchemaPlan.Reordered first second)
    (facets : List (String × List String)) (name : TypeName) :
    (registrations ⟨first, facets⟩).filter (·.typeName = name) =
      (registrations ⟨second, facets⟩).filter (·.typeName = name) := by
  rw [filter_registrations, filter_registrations]
  congr 1
  · induction each with
    | nil => rfl
    | cons here _ induction => rw [List.flatMap_cons, List.flatMap_cons, here.types, induction]
  · congr 1
    induction each with
    | nil => rfl
    | cons here _ induction =>
        simp only [List.filter_cons, here.schema_eq]
        split
        · rw [List.map_cons, List.map_cons, here.schema_eq, induction]
        · exact induction

end Plan

theorem exists_forall₂_of_forall₂ {α β : Type} {related : α → α → Prop} {drawn : α → β → Prop}
    {same : β → β → Prop} {values others : List α} {answers : List β}
    (pairs : List.Forall₂ related values others) (drafted : List.Forall₂ drawn values answers)
    (each : ∀ value ∈ values, ∀ other answer, related value other → drawn value answer →
      ∃ otherAnswer, drawn other otherAnswer ∧ same answer otherAnswer) :
    ∃ otherAnswers, List.Forall₂ drawn others otherAnswers ∧
      List.Forall₂ same answers otherAnswers := by
  induction pairs generalizing answers with
  | nil =>
      cases drafted
      exact ⟨[], .nil, .nil⟩
  | cons here _ induction =>
      cases drafted with
      | cons first rest =>
          rcases each _ List.mem_cons_self _ _ here first with ⟨answer, drawn, same⟩
          rcases induction rest fun value member => each value (List.mem_cons_of_mem _ member) with
            ⟨answers, drawnRest, sameRest⟩
          exact ⟨answer :: answers, .cons drawn drawnRest, .cons same sameRest⟩

namespace Drafting.SchemaDrafted

variable {registry : Registry} {registryId : RegistryId} {name : String}
  {definition : SchemaDefinition} {result : SchemaPlan × List TypeName}

theorem names (drafted : SchemaDrafted registry registryId name definition result) :
    result.1.name = name ∧ result.1.schema.name = ⟨name, name⟩ ∧
      ∀ blueprint ∈ result.1.types, blueprint.name.schema = name := by
  refine ⟨?_, ?_, fun blueprint member => ?_⟩
  · cases drafted
    rfl
  · cases drafted
    rfl
  · rcases drafted.of_mem member with ⟨_, -, -, named⟩ | ⟨_, named, -⟩ <;> rw [named]

end Drafting.SchemaDrafted

theorem Plan.filter_registrations_of_drafted {registry : Registry} {registryId : RegistryId}
    {schemas : List (String × SchemaDefinition)}
    {drafted permuted : List (SchemaPlan × List TypeName)}
    (each : List.Forall₂ (fun entry result =>
      Drafting.SchemaDrafted registry registryId entry.1 entry.2 result) schemas drafted)
    (once : (schemas.map Prod.fst).Nodup) (perm : drafted.Perm permuted)
    (facets : List (String × List String)) (name : TypeName) :
    (registrations ⟨drafted.map Prod.fst, facets⟩).filter (·.typeName = name) =
      (registrations ⟨permuted.map Prod.fst, facets⟩).filter (·.typeName = name) := by
  have names : schemas.map Prod.fst = drafted.map (SchemaPlan.name ∘ Prod.fst) :=
    map_eq_of_forall₂ each fun _ _ here => here.names.1.symm
  have origin : ∀ plan ∈ drafted.map Prod.fst, ∃ entry ∈ schemas, plan.name = entry.1 ∧
      plan.schema.name = ⟨entry.1, entry.1⟩ ∧
        ∀ blueprint ∈ plan.types, blueprint.name.schema = entry.1 := by
    intro plan member
    rcases List.mem_map.mp member with ⟨result, resultMember, rfl⟩
    rcases exists_left_of_forall₂ each resultMember with ⟨entry, entryMember, here⟩
    exact ⟨entry, entryMember, here.names⟩
  refine filter_registrations_of_perm (perm.map Prod.fst) ?_ ?_ ?_ facets name
  · rw [List.map_map, ← names]
    exact once
  · intro plan member
    rcases origin plan member with ⟨entry, -, planName, schemaName, -⟩
    rw [schemaName, planName]
  · intro plan member blueprint present
    rcases origin plan member with ⟨entry, -, planName, -, types⟩
    rw [types blueprint present, planName]

/-- A reordered document can be planned as well, and registers the same under every name. -/
theorem Planned.reordered {registry : Registry} {registryId : RegistryId} {plan : Plan}
    {first second : SchemaDocument} (planned : Planned registry registryId first plan)
    (reordered : first.Reordered second) (once : first.NamesOnce) :
    ∃ other, Planned registry registryId second other ∧ ∀ name,
      plan.registrations.filter (·.typeName = name) =
        other.registrations.filter (·.typeName = name) := by
  rcases planned with @⟨drafted, schemas, known⟩
  rcases reordered.schemas with ⟨middle, perm, each⟩
  rcases List.perm_comp_forall₂ perm.symm schemas with ⟨permuted, permutedDrafted, draftedPerm⟩
  have transfers : ∀ entry ∈ middle, ∀ (other : String × SchemaDefinition)
      (result : SchemaPlan × List TypeName), (entry.1 = other.1 ∧ entry.2.Reordered other.2) →
      Drafting.SchemaDrafted registry registryId entry.1 entry.2 result →
      ∃ otherResult, Drafting.SchemaDrafted registry registryId other.1 other.2 otherResult ∧
        (result.1.Reordered otherResult.1 ∧
          ∀ used, used ∈ result.2 ↔ used ∈ otherResult.2) := by
    intro entry member other result related drafted
    rw [← related.1]
    exact drafted.reordered related.2 (once.types entry (perm.mem_iff.mpr member))
  rcases exists_forall₂_of_forall₂ each permutedDrafted transfers with
    ⟨others, othersDrafted, same⟩
  have plans : List.Forall₂ SchemaPlan.Reordered (permuted.map Prod.fst)
      (others.map Prod.fst) :=
    List.forall₂_map_right_iff.mpr (List.forall₂_map_left_iff.mpr
      (same.imp fun _ _ both => both.1))
  refine ⟨_, .intro othersDrafted fun name used => ?_, fun name => ?_⟩
  · rcases List.mem_flatMap.mp used with ⟨other, otherMember, uses⟩
    rcases exists_left_of_forall₂ same otherMember with ⟨result, resultMember, -, uses'⟩
    have usedFirst : name ∈ drafted.flatMap Prod.snd := List.mem_flatMap.mpr
      ⟨result, draftedPerm.mem_iff.mp resultMember, (uses' name).mpr uses⟩
    refine (known name usedFirst).imp_left fun built => ?_
    rcases Plan.mem_builtNames.mp built with ⟨plan, planMember, builds⟩
    rcases exists_right_of_forall₂ plans
      ((draftedPerm.map Prod.fst).mem_iff.mpr planMember) with ⟨also, alsoMember, equal⟩
    refine Plan.mem_builtNames.mpr ⟨also, alsoMember, builds.imp ?_ ?_⟩
    · rintro ⟨blueprint, present, named⟩
      exact ⟨blueprint, equal.mem_types.mp present, named⟩
    · exact fun named => equal.schema_eq ▸ named
  · rw [← reordered.facets_eq,
      ← Plan.filter_registrations_of_reordered plans first.facets name]
    exact Plan.filter_registrations_of_drafted schemas once.schemas draftedPerm.symm _ _

end DocumentTypes
