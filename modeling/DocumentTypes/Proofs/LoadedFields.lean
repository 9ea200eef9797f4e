import DocumentTypes.Proofs.FieldPaths
import Mathlib.Data.List.Nodup

/-! # Fields of loaded documents

After a load, every declared field of a schema is found under the qualifier of the schema
and the path that leads to it in the document. -/

namespace DocumentTypes

open Drafting (SchemaDrafted FieldsDrafted schemaScope simpleBlueprint? nestedTypeName)

variable {registry : Registry} {registryId : RegistryId} {document : SchemaDocument}
  {plan : Plan} {name : String} {definition : SchemaDefinition}

namespace Planned

theorem eq_of_drafted (once : document.NamesOnce)
    (schema : (name, definition) ∈ document.schemas) {entry : String × SchemaDefinition}
    (member : entry ∈ document.schemas) (same : entry.1 = name)
    {result other : SchemaPlan × List TypeName}
    (drafted : SchemaDrafted registry registryId name definition result)
    (also : SchemaDrafted registry registryId entry.1 entry.2 other) : other = result := by
  rcases entry with ⟨entryName, entryDefinition⟩
  cases same
  cases eq_of_mem_of_nodup once.schemas schema member
  exact also.unique drafted

section

variable (planned : Planned registry registryId document plan) (once : document.NamesOnce)
  (schema : (name, definition) ∈ document.schemas)
  (unmarkedTypes : ∀ entry ∈ definition.types, Failure.anonymousMark ∉ entry.1.toList)
  {blueprints : List Blueprint} (types : List.Forall₂ (fun entry blueprint => simpleBlueprint?
    (schemaScope registry registryId name definition) entry.1 entry.2 = some blueprint)
    definition.types blueprints)
  {declared : List FieldDeclaration} {draft : Draft}
  (fields : FieldsDrafted (schemaScope registry registryId name definition) definition.space ""
    definition.fields declared draft)
  {blueprint : Blueprint} (generated : blueprint ∈ draft.types)

include planned once schema unmarkedTypes types fields generated

/-- Nothing else is registered under the name of a generated type, unless another generated
type, the schema or a facet has it, too. -/
theorem generated_alone_of (notSchema : blueprint.name ≠ ⟨name, name⟩)
    (noFacet : ∀ facet ∈ document.facets, blueprint.name ≠ ⟨facetSchema, facet.1⟩)
    (sole : ∀ other ∈ draft.types, other.name = blueprint.name → other = blueprint) :
    ∀ other ∈ plan.registrations, other.typeName = blueprint.name → other = .type blueprint := by
  rcases fields.generated blueprint generated with ⟨path, named, -⟩
  change blueprint.name = ⟨name, nestedTypeName path⟩ at named
  intro other member same
  rcases planned.of_mem member with ⟨entry, entryMember, result, also, kinds⟩ |
    ⟨facet, facetMember, rfl⟩
  · have schemaEq : entry.1 = name := by
      have inSchema := congrArg TypeName.schema (same.trans named)
      rcases kinds with ⟨type, typeMember, rfl⟩ | rfl
      · rcases also.of_mem typeMember with ⟨_, _, -, typeNamed⟩ | ⟨_, typeNamed, -⟩
        · exact (congrArg TypeName.schema typeNamed).symm.trans inSchema
        · exact (congrArg TypeName.schema typeNamed).symm.trans inSchema
      · cases also
        exact inSchema
    cases eq_of_drafted once schema entryMember schemaEq (.intro unmarkedTypes types fields) also
    rcases kinds with ⟨type, typeMember, rfl⟩ | rfl
    · rcases List.mem_append.mp typeMember with simple | alsoGenerated
      · rcases exists_left_of_forall₂ types simple with ⟨declaration, present, here⟩
        have typeNamed := (Drafting.simpleBlueprint?_name here).symm.trans (same.trans named)
        exact absurd (congrArg TypeName.name typeNamed)
          (Drafting.ne_nestedTypeName (unmarkedTypes _ present) path)
      · rw [sole type alsoGenerated same]
    · exact absurd same.symm notSchema
  · exact absurd same.symm (noFacet facet facetMember)

end

theorem schema_alone (planned : Planned registry registryId document plan)
    (once : document.NamesOnce) (schema : (name, definition) ∈ document.schemas)
    {result : SchemaPlan × List TypeName}
    (drafted : SchemaDrafted registry registryId name definition result) :
    ∀ other ∈ plan.registrations, other.schemaName? = some name →
      other = .schema result.1.schema := by
  intro other member named
  rcases planned.of_mem member with ⟨entry, entryMember, otherResult, also, kinds⟩ |
    ⟨facet, -, rfl⟩
  · rcases kinds with ⟨type, -, rfl⟩ | rfl
    · cases named
    · have schemaEq : entry.1 = name := by
        cases also
        exact Option.some.inj named
      cases eq_of_drafted once schema entryMember schemaEq drafted also
      rfl
  · cases named

end Planned

namespace Attempt

variable {store after : Store}

end Attempt
end DocumentTypes
