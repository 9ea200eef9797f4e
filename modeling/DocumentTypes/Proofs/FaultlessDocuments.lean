import DocumentTypes.Proofs.LoadOutcome
import DocumentTypes.Proofs.PathSegments
import Mathlib.Data.List.ReduceOption

/-! # Documents without defects

What a schema document names and what is built of it can be told from the document alone.
If it declares nothing that cannot be read, and every bare name in it is known, then all of
its schemas are drafted: only a qualified name is left that may mean nothing. -/

namespace DocumentTypes

open Drafting (FieldsDrafted SchemaDrafted schemaScope simpleBlueprint? listTypes nestedTypeName
  listTypeName)

/-! ## Fields inside of fields -/

mutual

/-- The type name of a field, or those of the fields inside of it. A type name beside fields
of its own is not read. -/
def FieldDefinition.leafTypes : FieldDefinition → List (Option String)
  | .mk typeName fields _ _ _ _ _ _ _ =>
    if fields.isEmpty then [typeName] else leafTypesOf fields

def leafTypesOf : List (String × FieldDefinition) → List (Option String)
  | [] => []
  | (_, field) :: rest => field.leafTypes ++ leafTypesOf rest

end

mutual

/-- The names of the types that are generated for a field at a path. -/
def FieldDefinition.generatedNames (path : String) : FieldDefinition → List String
  | .mk _ fields isList _ _ _ _ _ _ =>
    (if fields.isEmpty then []
      else generatedNamesOf (path ++ "/") fields ++ [nestedTypeName path]) ++
      if isList then [listTypeName path] else []

def generatedNamesOf (leading : String) : List (String × FieldDefinition) → List String
  | [] => []
  | (name, field) :: rest =>
    field.generatedNames (leading ++ name) ++ generatedNamesOf leading rest

end

namespace FieldDefinition

variable {field : FieldDefinition}

theorem leafTypes_of_plain (plain : field.fields = []) : field.leafTypes = [field.typeName] := by
  rcases field with ⟨_, _, _, _, _, _, _, _, _⟩
  cases plain
  rfl

theorem leafTypes_of_given (given : field.fields ≠ []) :
    field.leafTypes = leafTypesOf field.fields := by
  rcases field with ⟨_, fields, _, _, _, _, _, _, _⟩
  rw [leafTypes, if_neg (given ∘ List.isEmpty_iff.mp)]

theorem generatedNames_of_plain (path : String) (plain : field.fields = []) :
    field.generatedNames path = if field.isList then [listTypeName path] else [] := by
  rcases field with ⟨_, _, _, _, _, _, _, _, _⟩
  cases plain
  rfl

theorem generatedNames_of_given (path : String) (given : field.fields ≠ []) :
    field.generatedNames path = generatedNamesOf (path ++ "/") field.fields ++
      nestedTypeName path :: if field.isList then [listTypeName path] else [] := by
  rcases field with ⟨_, fields, _, _, _, _, _, _, _⟩
  rw [generatedNames, if_neg (given ∘ List.isEmpty_iff.mp), List.append_assoc]
  rfl

end FieldDefinition

/-! ## What a document names and builds -/

namespace SchemaDefinition

/-- The names of types that a schema uses, those of bases before those of fields. -/
def usedNames (definition : SchemaDefinition) : List String :=
  definition.types.map (fun entry => entry.2.base) ++
    (leafTypesOf definition.fields).reduceOption

def references (definition : SchemaDefinition) : List TypeName :=
  definition.usedNames.flatMap qualifiedNames

/-- The names of the types of a schema: declared, generated, and that of the schema itself. -/
def builtNames (definition : SchemaDefinition) (name : String) : List TypeName :=
  (definition.types.map Prod.fst ++ generatedNamesOf "" definition.fields ++ [name]).map
    (TypeName.mk name)

/-- A bare name means something in a schema: a type that is declared there, one that is
registered under the name of the schema, or a primitive. -/
def Knows (definition : SchemaDefinition) (registry : Registry) (name typeName : String) : Prop :=
  typeName ∈ definition.types.map Prod.fst ∨ registry.types.contains ⟨name, typeName⟩ = true ∨
    (PrimitiveKind.ofName? typeName).isSome = true

instance decidableKnows (definition : SchemaDefinition) (registry : Registry)
    (name typeName : String) : Decidable (definition.Knows registry name typeName) := by
  unfold Knows
  infer_instance

/-- Nothing is wrong with a schema, unless it is a qualified name. -/
structure Faultless (definition : SchemaDefinition) (registry : Registry) (name : String) :
    Prop where
  /-- No reserved name is declared. -/
  unmarked : ∀ entry ∈ definition.types, Failure.anonymousMark ∉ entry.1.toList
  /-- Every pattern can be read. -/
  patterns : ∀ entry ∈ definition.types, ∀ pattern ∈ entry.2.pattern,
    (FullPattern.ofText? pattern).isOk = true
  /-- Every field has a type or fields of its own. -/
  typed : none ∉ leafTypesOf definition.fields
  known : ∀ typeName ∈ definition.usedNames, ':' ∉ typeName.toList →
    definition.Knows registry name typeName

instance decidableFaultless (definition : SchemaDefinition) (registry : Registry)
    (name : String) : Decidable (definition.Faultless registry name) :=
  decidable_of_iff
    ((∀ entry ∈ definition.types, Failure.anonymousMark ∉ entry.1.toList) ∧
      (∀ entry ∈ definition.types, ∀ pattern ∈ entry.2.pattern,
        (FullPattern.ofText? pattern).isOk = true) ∧
      none ∉ leafTypesOf definition.fields ∧
      ∀ typeName ∈ definition.usedNames, ':' ∉ typeName.toList →
        definition.Knows registry name typeName)
    ⟨fun ⟨unmarked, patterns, typed, known⟩ => ⟨unmarked, patterns, typed, known⟩,
      fun ⟨unmarked, patterns, typed, known⟩ => ⟨unmarked, patterns, typed, known⟩⟩

end SchemaDefinition

namespace SchemaDocument

def references (document : SchemaDocument) : List TypeName :=
  document.schemas.flatMap fun entry => entry.2.references

/-- The names of the types and of the schemas of a document. -/
def builtNames (document : SchemaDocument) : List TypeName :=
  document.schemas.flatMap fun entry => entry.2.builtNames entry.1

/-- The names that the facets of a document have as types. -/
def facetTypes (document : SchemaDocument) : List TypeName :=
  document.facets.map fun facet => ⟨facetSchema, facet.1⟩

def Faultless (document : SchemaDocument) (registry : Registry) : Prop :=
  ∀ entry ∈ document.schemas, entry.2.Faultless registry entry.1

instance decidableFaultless (document : SchemaDocument) (registry : Registry) :
    Decidable (document.Faultless registry) :=
  inferInstanceAs (Decidable (∀ entry ∈ document.schemas, entry.2.Faultless registry entry.1))

end SchemaDocument

/-! ## What is drafted of it -/

namespace Drafting

variable {scope : Scope} {space : Namespace} {leading : String}
  {fields : List (String × FieldDefinition)} {declared : List FieldDeclaration} {draft : Draft}

theorem map_name_listTypes (scope : Scope) (path : String) (field : FieldDefinition)
    (item : TypeRef) : (listTypes scope path field item).map Blueprint.name =
      (if field.isList then [listTypeName path] else []).map (TypeName.mk scope.schema) := by
  unfold listTypes
  cases field.isList <;> rfl

theorem FieldsDrafted.map_name (drafted : FieldsDrafted scope space leading fields declared draft) :
    draft.types.map Blueprint.name =
      (generatedNamesOf leading fields).map (TypeName.mk scope.schema) := by
  induction drafted with
  | nil => rfl
  | named plain _ _ _ induction =>
      rw [Draft.types_append, generatedNamesOf, FieldDefinition.generatedNames_of_plain _ plain,
        List.map_append, List.map_append, induction, map_name_listTypes]
  | nested given _ _ inside induction =>
      rw [Draft.types_append, Draft.types_append, generatedNamesOf,
        FieldDefinition.generatedNames_of_given _ given]
      simp only [List.map_append, List.map_cons, inside, induction, map_name_listTypes]

theorem FieldsDrafted.qualified_eq
    (drafted : FieldsDrafted scope space leading fields declared draft) :
    draft.qualified = (leafTypesOf fields).reduceOption.flatMap qualifiedNames := by
  induction drafted with
  | nil => rfl
  | @named _ _ typeName field _ _ _ others plain typed _ _ induction =>
      change qualifiedNames typeName ++ others.qualified = _
      rw [leafTypesOf, FieldDefinition.leafTypes_of_plain plain, typed, induction,
        List.singleton_append, List.reduceOption_cons_of_some, List.flatMap_cons]
  | @nested _ _ field _ _ _ inner others given _ _ inside induction =>
      change inner.qualified ++ [] ++ others.qualified = _
      rw [leafTypesOf, FieldDefinition.leafTypes_of_given given, List.reduceOption_append,
        List.flatMap_append, List.append_nil, inside, induction]

variable {registry : Registry} {registryId : RegistryId} {name : String}
  {definition : SchemaDefinition} {result : SchemaPlan × List TypeName}

theorem SchemaDrafted.names_eq
    (drafted : SchemaDrafted registry registryId name definition result) :
    result.1.types.map Blueprint.name ++ [result.1.schema.name] = definition.builtNames name := by
  rcases drafted with ⟨-, types, fields⟩
  have declared : definition.types.map (fun entry => (⟨name, entry.1⟩ : TypeName)) =
      List.map Blueprint.name _ :=
    map_eq_of_forall₂ types fun entry blueprint here => (simpleBlueprint?_name here).symm
  unfold SchemaDefinition.builtNames
  rw [List.map_append, List.map_append, List.map_append, fields.map_name, ← declared, List.map_map]
  rfl

theorem SchemaDrafted.qualified_eq
    (drafted : SchemaDrafted registry registryId name definition result) :
    result.2 = definition.references := by
  rcases drafted with ⟨-, -, fields⟩
  unfold SchemaDefinition.references SchemaDefinition.usedNames
  rw [List.flatMap_append, List.flatMap_map, ← fields.qualified_eq]

end Drafting

/-! ## Documents that can be drafted -/

theorem exists_forall₂ {α β : Type} {related : α → β → Prop} {left : List α}
    (each : ∀ value ∈ left, ∃ other, related value other) :
    ∃ right, List.Forall₂ related left right := by
  induction left with
  | nil => exact ⟨[], .nil⟩
  | cons value rest induction =>
      rcases each value List.mem_cons_self with ⟨other, here⟩
      rcases induction fun _ member => each _ (List.mem_cons_of_mem _ member) with ⟨others, later⟩
      exact ⟨other :: others, .cons here later⟩

theorem SchemaDefinition.meaning?_isSome {definition : SchemaDefinition} {registry : Registry}
    {registryId : RegistryId} {name typeName : String}
    (known : ':' ∉ typeName.toList → definition.Knows registry name typeName) :
    ∃ target, (schemaScope registry registryId name definition).meaning? typeName =
      some target := by
  unfold Scope.meaning?
  cases parts : splitOnce? ':' typeName with
  | some _ => exact ⟨_, rfl⟩
  | none =>
      dsimp only
      split
      next => exact ⟨_, rfl⟩
      next elsewhere =>
        have primitive : (PrimitiveKind.ofName? typeName).isSome = true := by
          rcases known (splitOnce?_eq_none_iff.mp parts) with declared | registered | primitive
          · exact absurd (Bool.or_eq_true_iff.mpr (.inl (List.contains_iff_mem.mpr declared)))
              elsewhere
          · exact absurd (Bool.or_eq_true_iff.mpr (.inr registered)) elsewhere
          · exact primitive
        exact ⟨_, if_pos primitive⟩

namespace Drafting

theorem constraints_ok {definition : SimpleTypeDefinition}
    (readable : ∀ pattern ∈ definition.pattern, (FullPattern.ofText? pattern).isOk = true) :
    ∃ constraints, Drafting.constraints definition = .ok constraints := by
  unfold Drafting.constraints
  cases given : definition.pattern with
  | none => exact ⟨_, rfl⟩
  | some pattern =>
      have read := readable pattern given
      cases outcome : FullPattern.ofText? pattern with
      | ok full => exact ⟨_, by rw [Option.mapM_some, outcome]; rfl⟩
      | error failure =>
          rw [outcome] at read
          cases read

variable (scope : Scope) (space : Namespace)

mutual

theorem exists_fieldDrafted {leading name : String} {rest : List (String × FieldDefinition)}
    {declared : List FieldDeclaration} {others : Draft}
    (later : FieldsDrafted scope space leading rest declared others) :
    ∀ field : FieldDefinition,
      (∀ leaf ∈ field.leafTypes, ∃ typeName target, leaf = some typeName ∧
        scope.meaning? typeName = some target) →
      ∃ declared draft, FieldsDrafted scope space leading ((name, field) :: rest) declared draft
  | .mk typeName [] isList itemName default nillable constant minOccurs maxOccurs => by
      intro meant
      rcases meant typeName List.mem_cons_self with ⟨given, target, rfl, named⟩
      exact ⟨_, _, .named rfl rfl named later⟩
  | .mk typeName (first :: fields) isList itemName default nillable constant minOccurs
      maxOccurs => by
      intro meant
      rcases exists_fieldsDrafted (leading ++ name ++ "/") (first :: fields) meant with
        ⟨own, inner, inside⟩
      exact ⟨_, _, .nested (List.cons_ne_nil _ _) inside later⟩

theorem exists_fieldsDrafted (leading : String) : ∀ fields : List (String × FieldDefinition),
      (∀ leaf ∈ leafTypesOf fields, ∃ typeName target, leaf = some typeName ∧
        scope.meaning? typeName = some target) →
      ∃ declared draft, FieldsDrafted scope space leading fields declared draft
  | [] => fun _ => ⟨[], .empty, .nil leading⟩
  | (name, field) :: rest => by
      intro meant
      rcases exists_fieldsDrafted leading rest fun leaf member =>
        meant leaf (List.mem_append_right _ member) with ⟨declared, others, later⟩
      exact exists_fieldDrafted later field fun leaf member =>
        meant leaf (List.mem_append_left _ member)

end

end Drafting

theorem SchemaDefinition.Faultless.drafted {definition : SchemaDefinition} {registry : Registry}
    {name : String} (faultless : definition.Faultless registry name) (registryId : RegistryId) :
    ∃ result, SchemaDrafted registry registryId name definition result := by
  let scope := schemaScope registry registryId name definition
  have meant : ∀ typeName ∈ definition.usedNames, ∃ target,
      scope.meaning? typeName = some target :=
    fun typeName used => meaning?_isSome (faultless.known typeName used)
  have types : ∀ entry ∈ definition.types, ∃ blueprint,
      simpleBlueprint? scope entry.1 entry.2 = some blueprint := by
    intro entry member
    rcases meant entry.2.base (List.mem_append_left _ (List.mem_map_of_mem member)) with
      ⟨target, named⟩
    rcases Drafting.constraints_ok (faultless.patterns entry member) with ⟨constraints, read⟩
    exact ⟨_, Drafting.simpleBlueprint?_eq_some_iff.mpr ⟨target, constraints, named, read, rfl⟩⟩
  have leaves : ∀ leaf ∈ leafTypesOf definition.fields, ∃ typeName target,
      leaf = some typeName ∧ scope.meaning? typeName = some target := by
    intro leaf member
    cases leaf with
    | none => exact absurd member faultless.typed
    | some typeName =>
        rcases meant typeName (List.mem_append_right _ (List.reduceOption_mem_iff.mpr member)) with
          ⟨target, named⟩
        exact ⟨typeName, target, rfl, named⟩
  rcases exists_forall₂ types with ⟨blueprints, typesDrafted⟩
  rcases Drafting.exists_fieldsDrafted scope definition.space "" definition.fields leaves with
    ⟨declared, draft, fieldsDrafted⟩
  exact ⟨_, .intro faultless.unmarked typesDrafted fieldsDrafted⟩

theorem SchemaDocument.Faultless.drafted {document : SchemaDocument} {registry : Registry}
    (faultless : document.Faultless registry) (registryId : RegistryId) :
    ∃ drafted, List.Forall₂ (fun entry => SchemaDrafted registry registryId entry.1 entry.2)
        document.schemas drafted ∧
      Plan.builtNames (drafted.map Prod.fst) = document.builtNames ∧
      drafted.flatMap Prod.snd = document.references := by
  rcases exists_forall₂ fun entry member => (faultless entry member).drafted registryId with
    ⟨drafted, schemas⟩
  refine ⟨drafted, schemas, ?_, ?_⟩
  · unfold Plan.builtNames SchemaDocument.builtNames
    rw [List.flatMap_map, List.flatMap_def, List.flatMap_def]
    exact congrArg List.flatten
      (map_eq_of_forall₂ schemas fun _ _ here => here.names_eq.symm).symm
  · unfold SchemaDocument.references
    rw [List.flatMap_def, List.flatMap_def]
    exact congrArg List.flatten
      (map_eq_of_forall₂ schemas fun _ _ here => here.qualified_eq.symm).symm

end DocumentTypes
