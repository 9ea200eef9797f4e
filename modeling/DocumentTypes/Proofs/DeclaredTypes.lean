import DocumentTypes.Proofs.DocumentNames
import DocumentTypes.Proofs.LoadOutcome

/-! # Declared types

The types of all schemas, the types generated for fields, the schemas themselves and the
facets are registered in one table. A declared type is replaced by none of the others,
unless it has the name of its own schema, or stands in the schema of the facets under the
name of one. -/

namespace DocumentTypes

open Drafting (SchemaDrafted schemaScope simpleBlueprint?)

variable {registry : Registry} {registryId : RegistryId} {document : SchemaDocument}
  {plan : Plan} {name typeName : String} {definition : SchemaDefinition}
  {declaration : SimpleTypeDefinition}

theorem Planned.declared (planned : Planned registry registryId document plan)
    (once : document.NamesOnce) (schema : (name, definition) ∈ document.schemas)
    (declared : (typeName, declaration) ∈ definition.types) (apart : typeName ≠ name)
    (noFacet : ¬(name = facetSchema ∧ typeName ∈ document.facets.map Prod.fst)) :
    ∃ blueprint, simpleBlueprint? (schemaScope registry registryId name definition) typeName
        declaration = some blueprint ∧
      Registration.type blueprint ∈ plan.registrations ∧
      ∀ other ∈ plan.registrations, other.typeName = ⟨name, typeName⟩ →
        other = .type blueprint := by
  rcases planned.drafted schema with ⟨result, drafted, typesPlanned, -⟩
  rcases id drafted with ⟨unmarked, types, -⟩
  rcases exists_right_of_forall₂ types declared with ⟨blueprint, present, here⟩
  refine ⟨blueprint, here, typesPlanned _ (List.mem_append_left _ present), ?_⟩
  intro other member named
  rcases planned.of_unmarked_name member named (unmarked _ declared) with
    ⟨otherDefinition, otherMember, ⟨otherDeclaration, otherBlueprint, otherDeclared, otherHere,
      rfl⟩ | same⟩ | facet
  · cases eq_of_mem_of_nodup once.schemas schema otherMember
    cases eq_of_mem_of_nodup (once.types _ schema) declared otherDeclared
    exact congrArg _ (Option.some.inj (otherHere.symm.trans here))
  · exact absurd same apart
  · exact absurd facet noFacet

namespace Attempt

variable {store after : Store}

/-- No declared type is lost in a load: its name means a simple type that is just as it was
declared, and so does the bare name inside the schema. Only a type that is named like its
schema, or like a facet of the document in a schema named like that of the facets, is left
out. -/
theorem load_keeps_declared_type (once : document.NamesOnce)
    (loaded : (load document).run.run store = (.ok (), after))
    (schema : (name, definition) ∈ document.schemas)
    (declared : (typeName, declaration) ∈ definition.types) (apart : typeName ≠ name)
    (noFacet : ¬(name = facetSchema ∧ typeName ∈ document.facets.map Prod.fst)) :
    ∃ id type constraints, after.registry.types.get? ⟨name, typeName⟩ = some id ∧
      after.type? id = some type ∧
      type.name = ⟨name, typeName⟩ ∧
      Drafting.constraints declaration = .ok constraints ∧
      type.kind = .simple { constraints } ∧
      type.flags = (if declaration.notNull then DocumentType.notNullFlag else 0) ∧
      (∃ draft, (Drafting.resolve (schemaScope store.registry store.registryId name definition)
        declaration.base).run ⟨[], []⟩ = .ok (type.base, draft)) ∧
      (splitOnce? ':' typeName = none → ∃ reference, after.resolve reference = some id ∧
        ∀ draft, (Drafting.resolve (schemaScope store.registry store.registryId name definition)
          typeName).run draft = .ok (reference, draft)) := by
  rcases load_entered loaded with ⟨plan, planned, sound, entered⟩
  rcases planned.declared once schema declared apart noFacet with
    ⟨blueprint, here, member, alone⟩
  have named : blueprint.name = ⟨name, typeName⟩ := Drafting.simpleBlueprint?_name here
  rcases entered.registered member fun other present same => alone other present (same.trans named)
    with ⟨id, -, found, built⟩
  change after.registry.types.get? blueprint.name = some id at found
  rw [named] at found
  rcases Drafting.simpleBlueprint?_eq_some_iff.mp here with
    ⟨target, constraints, meant, read, rfl⟩
  refine ⟨id, _, constraints, found, built, rfl, read, rfl, rfl, ?_, fun bare => ?_⟩
  · exact ⟨_, Drafting.run_resolve_ok_iff.mpr ⟨target, meant, rfl, rfl⟩⟩
  · refine ⟨.named store.registryId ⟨name, typeName⟩, ?_, fun draft => ?_⟩
    · unfold Store.resolve
      rw [entered.registryId_eq]
      exact (if_pos rfl).trans found
    · have known : (schemaScope store.registry store.registryId name definition).meaning?
          typeName = some ⟨name, typeName⟩ := by
        have contained : (definition.types.map Prod.fst).contains typeName = true :=
          List.contains_iff_mem.mpr (List.mem_map_of_mem declared)
        unfold Scope.meaning? schemaScope
        simp only [bare, contained, Bool.true_or, if_true]
      refine Drafting.run_resolve_ok_iff.mpr ⟨_, known, rfl, ?_⟩
      unfold qualifiedNames
      rw [bare]
      exact draft.append_empty.symm

/-- A type with a pattern of lengths and one that derives from it. -/
theorem load_keeps_declared_code :
    let declaration : SimpleTypeDefinition := { base := "code", notNull := true }
    let definition : SchemaDefinition := {
      types := [("code", { base := "string", maxLength := some 3 }), ("grade", declaration)]
      fields := [("label", { typeName := some "grade" })] }
    let document : SchemaDocument := { schemas := [("dc", definition)] }
    let after := ((load document).run.run .initial).2
    ((load document).run.run .initial).1 = .ok () ∧ document.NamesOnce ∧
    ∃ id type constraints, after.registry.types.get? ⟨"dc", "grade"⟩ = some id ∧
      after.type? id = some type ∧
      type.name = ⟨"dc", "grade"⟩ ∧
      Drafting.constraints declaration = .ok constraints ∧
      type.kind = .simple { constraints } ∧
      type.flags = DocumentType.notNullFlag ∧
      (∃ draft, (Drafting.resolve (schemaScope Store.initial.registry Store.initial.registryId
        "dc" definition) "code").run ⟨[], []⟩ = .ok (type.base, draft)) ∧
      (splitOnce? ':' "grade" = none → ∃ reference, after.resolve reference = some id ∧
        ∀ draft, (Drafting.resolve (schemaScope Store.initial.registry Store.initial.registryId
          "dc" definition) "grade").run draft = .ok (reference, draft)) := by
  intro declaration definition document after
  have loaded : ((load document).run.run .initial).1 = .ok () := by decide +kernel
  have once : document.NamesOnce := by
    refine ⟨by decide, by decide, ?_, ?_⟩
    · intro entry member
      rw [List.mem_singleton.mp member]
      decide
    · intro entry member
      rw [List.mem_singleton.mp member]
      exact .cons trivial (by decide) .nil .nil
  refine ⟨loaded, once, ?_⟩
  exact load_keeps_declared_type once (run_eq_ok loaded) List.mem_cons_self
    (List.mem_cons_of_mem _ List.mem_cons_self) (by decide) (by decide)

/-- A type that is named like its schema is lost: its name means the schema. -/
theorem load_loses_type_named_like_schema :
    let document : SchemaDocument := { schemas := [("code", {
      types := [("code", { base := "string", maxLength := some 3 })]
      fields := [("label", { typeName := some "code" })] })] }
    let after := ((load document).run.run .initial).2
    ((load document).run.run .initial).1 = .ok () ∧
    ∃ id, after.registry.types.get? ⟨"code", "code"⟩ = some id ∧
      ((after.type? id).bind DocumentType.simple?).isNone = true ∧
      ((after.type? id).bind DocumentType.complex?).isSome = true := by
  refine ⟨by decide +kernel, ⟨9⟩, ?_⟩
  decide +kernel

end Attempt
end DocumentTypes
