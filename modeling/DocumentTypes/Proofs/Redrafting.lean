import DocumentTypes.Proofs.LoadOutcome

/-! # Drafting in another scope

What is drafted depends on a scope only through what the mentioned names mean there. So a
schema is drafted in the same way wherever the names that it mentions mean the same. -/

namespace DocumentTypes

/-! ## Mentioned names -/

/-- Fields name a type, beside each other or further inside. -/
inductive FieldsMention (typeName : String) : List (String × FieldDefinition) → Prop
  | here {fields : List (String × FieldDefinition)} {entry : String × FieldDefinition}
      (member : entry ∈ fields) (plain : entry.2.fields = [])
      (typed : entry.2.typeName = some typeName) : FieldsMention typeName fields
  | inside {fields : List (String × FieldDefinition)} {entry : String × FieldDefinition}
      (member : entry ∈ fields) (mentions : FieldsMention typeName entry.2.fields) :
      FieldsMention typeName fields

theorem FieldsMention.mono {typeName : String} {fields others : List (String × FieldDefinition)}
    (mentions : FieldsMention typeName fields) (subset : fields ⊆ others) :
    FieldsMention typeName others := by
  cases mentions with
  | here member plain typed => exact .here (subset member) plain typed
  | inside member mentions => exact .inside (subset member) mentions

/-- A schema names a type as the base of another one or as that of a field. -/
def SchemaDefinition.Mentions (definition : SchemaDefinition) (typeName : String) : Prop :=
  (∃ entry ∈ definition.types, entry.2.base = typeName) ∨ FieldsMention typeName definition.fields

/-- What some names mean in one scope they mean in another one of the same schema. -/
structure Scope.AgreesOn (mentioned : String → Prop) (first second : Scope) : Prop where
  schema_eq : first.schema = second.schema
  registryId_eq : first.registryId = second.registryId
  meaning : ∀ name target, mentioned name → first.meaning? name = some target →
    second.meaning? name = some target

theorem Scope.AgreesOn.mono {some others : String → Prop} {first second : Scope}
    (agrees : first.AgreesOn others second) (fewer : ∀ name, some name → others name) :
    first.AgreesOn some second :=
  ⟨agrees.schema_eq, agrees.registryId_eq, fun name target mentioned =>
    agrees.meaning name target (fewer name mentioned)⟩

namespace Drafting

variable {first second : Scope}

theorem simpleBlueprint?_agree {name : String} {definition : SimpleTypeDefinition}
    {blueprint : Blueprint} (drafted : simpleBlueprint? first name definition = some blueprint)
    (agrees : first.AgreesOn (· = definition.base) second) :
    simpleBlueprint? second name definition = some blueprint := by
  rcases simpleBlueprint?_eq_some_iff.mp drafted with ⟨target, constraints, meant, read, rfl⟩
  refine simpleBlueprint?_eq_some_iff.mpr
    ⟨target, constraints, agrees.meaning _ _ rfl meant, read, ?_⟩
  rw [agrees.schema_eq, agrees.registryId_eq]

theorem FieldsDrafted.agree {space : Namespace} {leading : String}
    {fields : List (String × FieldDefinition)} {declared : List FieldDeclaration} {draft : Draft}
    (drafted : FieldsDrafted first space leading fields declared draft)
    (agrees : first.AgreesOn (FieldsMention · fields) second) :
    FieldsDrafted second space leading fields declared draft := by
  rcases first with ⟨schema, firstDeclared, firstRegistry, registryId⟩
  rcases second with ⟨_, secondDeclared, secondRegistry, _⟩
  cases agrees.schema_eq
  cases agrees.registryId_eq
  induction drafted with
  | nil => exact .nil _
  | named plain typed meant later induction =>
      refine .named plain typed (agrees.meaning _ _ (.here List.mem_cons_self plain typed) meant) ?_
      exact induction (agrees.mono fun _ mentioned => mentioned.mono (List.subset_cons_self _ _))
  | nested given inside later inductionInside induction =>
      refine .nested given (inductionInside ?_) (induction ?_)
      · exact agrees.mono fun _ mentioned => .inside List.mem_cons_self mentioned
      · exact agrees.mono fun _ mentioned => mentioned.mono (List.subset_cons_self _ _)

theorem SchemaDrafted.agree {registry other : Registry} {registryId : RegistryId} {name : String}
    {definition : SchemaDefinition} {result : SchemaPlan × List TypeName}
    (drafted : SchemaDrafted registry registryId name definition result)
    (agrees : (schemaScope registry registryId name definition).AgreesOn definition.Mentions
      (schemaScope other registryId name definition)) :
    SchemaDrafted other registryId name definition result := by
  rcases drafted with ⟨unmarked, types, fields⟩
  refine .intro unmarked ?_ (fields.agree (agrees.mono fun _ => .inr))
  refine (List.forall₂_and_left _ _).mpr ⟨fun entry member => member, types⟩ |>.imp ?_
  intro entry blueprint both
  exact simpleBlueprint?_agree both.2 (agrees.mono fun _ same => .inl ⟨entry, both.1, same.symm⟩)

end Drafting

/-- A plan stays one in a larger registry in which all mentioned names mean the same. -/
theorem Planned.agree {registry other : Registry} {registryId : RegistryId}
    {document : SchemaDocument} {plan : Plan} (planned : Planned registry registryId document plan)
    (agrees : ∀ entry ∈ document.schemas,
      (Drafting.schemaScope registry registryId entry.1 entry.2).AgreesOn entry.2.Mentions
        (Drafting.schemaScope other registryId entry.1 entry.2))
    (grown : ∀ name, registry.types.contains name = true → other.types.contains name = true) :
    Planned other registryId document plan := by
  rcases planned with ⟨schemas, known⟩
  refine .intro ?_ fun name used => (known name used).imp_right (grown name)
  refine (List.forall₂_and_left _ _).mpr ⟨fun entry member => member, schemas⟩ |>.imp ?_
  intro entry result both
  exact both.2.agree (agrees entry both.1)

end DocumentTypes
