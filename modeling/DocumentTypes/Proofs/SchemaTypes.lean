import DocumentTypes.Proofs.Filing

/-! # Schemas and types

A schema is registered twice, under its name among the schemas and as a type. Registering
another type of that name, or a facet among the types of facets, replaces it as a type and
leaves it as a schema. So the type of that name is whatever was filed last. -/

namespace DocumentTypes

namespace Filing

def entered? (name : TypeName) : Filing → Option TypeId
  | type id target => if target = name then some id else none
  | schema id target _ => if target = name then some id else none
  | facet id target => if ⟨facetSchema, target⟩ = name then some id else none
  | _ => none

end Filing

namespace Store

variable {before after store : Store} {filing? : Option Filing} {filings : List Filing}
  {name : String} {id : TypeId}

/-! ## Each filing -/

theorem Filed.types (filed : before.Filed filing? after) (target : TypeName)
    (kept : ∀ filing ∈ filing?, filing.removes target.name = false) :
    after.registry.types.get? target =
      (filing?.bind (Filing.entered? target)).or (before.registry.types.get? target) := by
  cases filed with
  | nothing _ registry_eq =>
      rw [registry_eq]
      rfl
  | type _ _ registry_eq | schema _ _ _ registry_eq | facet _ registry_eq =>
      rw [registry_eq, Option.bind_some, Filing.entered?]
      refine (Table.get?_put _ _ _ _).trans ?_
      split <;> rfl
  | @removal _ schema home qualifiers _ registry_eq =>
      have other : schema ≠ target.name := of_decide_eq_false (kept _ rfl)
      rw [registry_eq]
      refine (Table.get?_erase _ _ _).trans (if_neg fun same => other ?_)
      rw [← same]
  | clearance => cases kept _ rfl

/-! ## Histories -/

/-- The type that has the name of a schema, told from the filings: where the schema was
registered, and what was put under its name since. -/
def SchemasTraced (store : Store) (filings : List Filing) : Prop :=
  ∀ name id, store.registry.schemas.get? name = some id →
    ∃ type qualifier earlier since, store.type? id = some type ∧ type.name.name = name ∧
      filings = earlier ++ .schema id type.name qualifier :: since ∧
      (∀ filing ∈ since, filing.concerns name = false) ∧
      store.registry.types.get? type.name =
        some ((since.filterMap (Filing.entered? type.name)).getLast?.getD id)

theorem SchemasTraced.filed (filed : before.Filed filing? after)
    (traced : before.SchemasTraced filings) :
    after.SchemasTraced (filings ++ filing?.toList) := by
  intro name id registered
  rcases filed.registered registered with ⟨type, qualifier, rfl, found, rfl⟩ | ⟨old, kept⟩
  · rcases filed.lasting.type? found with ⟨later, laterFound, names⟩
    have current := filed.types type.name (by rintro _ ⟨⟩; rfl)
    rw [Option.bind_some, Filing.entered?, if_pos rfl, Option.some_or] at current
    refine ⟨later, qualifier, filings, [], laterFound, by rw [names], ?_, nofun, ?_⟩
    · rw [names]
      rfl
    · rw [names]
      exact current
  · rcases traced name id old with
      ⟨type, qualifier, earlier, since, found, rfl, rfl, unconcerned, current⟩
    rcases filed.lasting.type? found with ⟨later, laterFound, names⟩
    refine ⟨later, qualifier, earlier, since ++ filing?.toList, laterFound, by rw [names],
      ?_, ?_, ?_⟩
    · rw [names, List.append_assoc, List.cons_append]
    · intro filing member
      rcases List.mem_append.mp member with early | last
      · exact unconcerned filing early
      · exact kept filing (Option.mem_toList.mp last)
    · rw [names, filed.types type.name fun filing member =>
        Filing.removes_of_concerns (kept filing member), current, filterMap_append_toList]
      cases filing?.bind (Filing.entered? type.name) <;> simp

theorem schemasTraced_initial : Store.initial.SchemasTraced [] := by
  intro name id registered
  have none : Store.initial.registry.schemas.values = [] := by decide +kernel
  exact absurd (Table.mem_values_iff.mpr ⟨name, registered⟩) (none ▸ List.not_mem_nil)

/-- References to a registered schema mean the schema itself. References to the type of its
name mean it as well, until another type or a facet is registered under that name, and from
then on the one that was registered last. -/
theorem schema_type_current (operations : List Operation)
    (single : ∀ operation ∈ operations, operation.filesOnce = true) (name : String) (id : TypeId)
    (registered : (following operations).registry.schemas.get? name = some id) :
    let store := following operations
    ∃ type qualifier earlier since, store.type? id = some type ∧ type.name.name = name ∧
      filingsOf operations = earlier ++ .schema id type.name qualifier :: since ∧
      (∀ filing ∈ since, filing.concerns name = false) ∧
      let current := (since.filterMap (Filing.entered? type.name)).getLast?.getD id
      store.registry.types.get? type.name = some current ∧
      store.resolve (.named store.registryId type.name) = some current ∧
      store.resolve (.schema store.registryId name) = some id := by
  intro store
  rcases traced_following schemasTraced_initial SchemasTraced.filed single name id registered with
    ⟨type, qualifier, earlier, since, found, named, filings, unconcerned, current⟩
  refine ⟨type, qualifier, earlier, since, found, named, filings, unconcerned, current, ?_, ?_⟩
  · exact (if_pos rfl).trans current
  · exact (if_pos rfl).trans registered

/-- A simple type gives its name up to a schema, and a facet of another name is of no
account. -/
theorem schema_type_current_over_simple :
    let simple : Blueprint := {
      name := ⟨"dc", "dc"⟩
      base := .direct ⟨0⟩ ⟨primitiveSchema, "string"⟩
      body := .simple [] }
    let complex : Blueprint := { name := ⟨"dc", "dc"⟩, body := .complex ⟨"", "d"⟩ none [] }
    let operations : List Operation := [.build simple, .registerType ⟨8⟩,
      .build complex, .registerSchema ⟨9⟩, .registerFacet "dc" ["dc"]]
    let store := following operations
    store.registry.schemas.get? "dc" = some ⟨9⟩ ∧
    ∃ type qualifier earlier since, store.type? ⟨9⟩ = some type ∧ type.name.name = "dc" ∧
      filingsOf operations = earlier ++ .schema ⟨9⟩ type.name qualifier :: since ∧
      (∀ filing ∈ since, filing.concerns "dc" = false) ∧
      let current := (since.filterMap (Filing.entered? type.name)).getLast?.getD ⟨9⟩
      store.registry.types.get? type.name = some current ∧
      store.resolve (.named store.registryId type.name) = some current ∧
      store.resolve (.schema store.registryId "dc") = some ⟨9⟩ := by
  intro simple complex operations
  have registered : (following operations).registry.schemas.get? "dc" = some ⟨9⟩ := by
    decide +kernel
  have single : ∀ operation ∈ operations, operation.filesOnce = true := List.all_eq_true.mp rfl
  exact ⟨registered, schema_type_current operations single "dc" ⟨9⟩ registered⟩

/-- A registered schema is replaced as a type by a simple type, or by a facet. -/
theorem schema_type_replaced :
    let simple : Blueprint := {
      name := ⟨"dc", "dc"⟩
      base := .direct ⟨0⟩ ⟨primitiveSchema, "string"⟩
      body := .simple [] }
    let complex (name : TypeName) : Blueprint := { name, body := .complex ⟨"", ""⟩ none [] }
    let redefined := following [.build (complex ⟨"dc", "dc"⟩), .registerSchema ⟨8⟩,
      .build simple, .registerType ⟨9⟩]
    let hidden := following [.build (complex ⟨facetSchema, "record"⟩), .registerSchema ⟨8⟩,
      .registerFacet "record" []]
    (redefined.registry.schemas.get? "dc" = some ⟨8⟩ ∧
      (redefined.type? ⟨8⟩).map DocumentType.name = some ⟨"dc", "dc"⟩ ∧
      redefined.registry.types.get? ⟨"dc", "dc"⟩ = some ⟨9⟩) ∧
    hidden.registry.schemas.get? "record" = some ⟨8⟩ ∧
    (hidden.type? ⟨8⟩).map DocumentType.name = some ⟨facetSchema, "record"⟩ ∧
    hidden.registry.types.get? ⟨facetSchema, "record"⟩ = some ⟨9⟩ := by
  decide +kernel

end Store
end DocumentTypes
