import DocumentTypes.Proofs.FaultlessDocuments

/-! # Qualified references

A qualified name may point to anything that is registered or that its document builds, before
or after it. In a document without other defects it alone decides whether the load succeeds.
The check is made before anything is registered, against the names of what is planned. So it
has to foresee what will be found: it does for types and schemas, but not for facets. -/

namespace DocumentTypes

/-! ## The check -/

theorem Plan.checkQualified_error {registry : Registry} {built qualified : List TypeName}
    {name : TypeName} (first : qualified.find? (fun name =>
      !(built.contains name || registry.types.contains name)) = some name) :
    checkQualified registry built qualified = .error (.unknownType name.schema name.name) := by
  induction qualified with
  | nil => cases first
  | cons other rest induction =>
      change ((if (built.contains other || registry.types.contains other) = true then Except.ok ()
        else .error (Failure.unknownType other.schema other.name)) >>= fun _ =>
          checkQualified registry built rest) = _
      cases known : built.contains other || registry.types.contains other with
      | true =>
          rw [List.find?_cons_of_neg (by rw [known]; exact Bool.false_ne_true)] at first
          exact induction first
      | false =>
          rw [List.find?_cons_of_pos (by rw [known]; rfl)] at first
          cases first
          rfl

namespace Action

variable {document : SchemaDocument} {store : Store}

theorem planSchemas_of_faultless (faultless : document.Faultless store.registry) :
    ∃ schemas middle, (planSchemas document.schemas).run.run store =
        (.ok (schemas, document.references), middle) ∧
      store.Noted middle ∧ Plan.builtNames schemas = document.builtNames := by
  rcases faultless.drafted store.registryId with ⟨drafted, each, built, references⟩
  have planned := Attempt.run_eq_ok (planSchemas_ok_iff.mpr ⟨drafted, each, rfl⟩)
  rw [references] at planned
  exact ⟨_, _, planned, planSchemas_preserves_noted store _ store (.refl store), built⟩

end Action

/-! ## Registering without a check -/

theorem Registry.exists_larger (registry : Registry) (names : List TypeName) :
    ∃ larger : Registry, ∀ name, name ∈ names ∨ registry.types.contains name = true →
      larger.types.contains name = true := by
  induction names with
  | nil => exact ⟨registry, fun name known => known.resolve_left List.not_mem_nil⟩
  | cons first rest induction =>
      rcases induction with ⟨larger, holds⟩
      refine ⟨{ larger with types := larger.types.put first ⟨0⟩ }, fun name known => ?_⟩
      by_cases same : name = first
      · rw [same]
        exact Table.contains_put_self _ _ _
      · refine (Table.contains_put _ _ _ _).trans (Bool.or_eq_true_iff.mpr (.inr ?_))
        exact holds name (known.imp_left fun member => (List.mem_cons.mp member).resolve_left same)

/-- Schemas that have been planned make a plan that is sound in some registry: in any that has
the references as well. -/
theorem Action.planSchemas_sound {definitions : List (String × SchemaDefinition)}
    {store middle : Store} {schemas : List SchemaPlan} {references : List TypeName}
    (planned : (planSchemas definitions).run.run store = (.ok (schemas, references), middle))
    (facets : List (String × List String)) :
    ∃ registry registryId, Plan.Sound registry registryId ⟨schemas, facets⟩ := by
  rcases store.registry.exists_larger references with ⟨larger, known⟩
  have refers := planSchemas_refers planned
  refine ⟨larger, store.registryId, fun entry member => (refers entry member).1,
    fun entry member blueprint present => ?_⟩
  refine ((refers entry member).2 blueprint present).mono fun reference aims => ?_
  rcases aims with ⟨target, named, own | registered | primitive⟩
  · refine ⟨target, named, ?_⟩
    rcases List.mem_append.mp own with built | used
    · exact .inl built
    · exact .inr (.inl (known target (.inl used)))
  · exact ⟨target, named, .inr (.inl (known target (.inr registered)))⟩
  · exact ⟨target, named, .inr (.inr primitive)⟩

theorem Plan.exists_registration_iff {plan : Plan} {name : TypeName} :
    (∃ registration ∈ plan.registrations, registration.typeName = name) ↔
      name ∈ builtNames plan.schemas ∨
        name ∈ plan.facets.map fun facet => (⟨facetSchema, facet.1⟩ : TypeName) := by
  simp only [registrations, builtNames, List.mem_append, List.mem_map, List.mem_flatMap,
    List.mem_singleton]
  constructor
  · rintro ⟨registration, ⟨blueprint, ⟨entry, member, present⟩, rfl⟩ |
      ⟨_, ⟨entry, member, rfl⟩, rfl⟩ | ⟨facet, member, rfl⟩, rfl⟩
    · exact .inl ⟨entry, member, .inl ⟨blueprint, present, rfl⟩⟩
    · exact .inl ⟨entry, member, .inr rfl⟩
    · exact .inr ⟨facet, member, rfl⟩
  · rintro (⟨entry, member, ⟨blueprint, present, rfl⟩ | rfl⟩ | ⟨facet, member, rfl⟩)
    · exact ⟨_, .inl ⟨blueprint, ⟨entry, member, present⟩, rfl⟩, rfl⟩
    · exact ⟨_, .inr (.inl ⟨_, ⟨entry, member, rfl⟩, rfl⟩), rfl⟩
    · exact ⟨_, .inr (.inr ⟨facet, member, rfl⟩), rfl⟩

namespace Attempt

variable {document : SchemaDocument} {store middle : Store} {schemas : List SchemaPlan}
  {references : List TypeName}

/-- Register all of a document, whatever its references mean. -/
def register (document : SchemaDocument) : Attempt Unit := do
  let (schemas, _) ← Action.planSchemas document.schemas
  carryOut ⟨schemas, document.facets⟩

theorem carryOut_unchecked (planned : (Action.planSchemas document.schemas).run.run store =
      (.ok (schemas, references), middle)) :
    ∃ registered, (carryOut ⟨schemas, document.facets⟩).run.run middle = (.ok (), registered) ∧
      ∀ name, registered.registry.types.contains name = true ↔
        name ∈ Plan.builtNames schemas ∨ name ∈ document.facetTypes ∨
          middle.registry.types.contains name = true := by
  rcases Action.planSchemas_sound planned document.facets with ⟨registry, registryId, sound⟩
  rcases carryOut_entered sound middle with ⟨registered, run, entered⟩
  refine ⟨registered, run, fun name => entered.contains_types_iff.trans ?_⟩
  rw [Plan.exists_registration_iff, or_assoc]
  rfl

/-! ## Loads -/

theorem run_load (planned : (Action.planSchemas document.schemas).run.run store =
      (.ok (schemas, references), middle)) :
    (load document).run.run store =
      match Plan.checkQualified middle.registry (Plan.builtNames schemas) references with
      | .ok _ => (carryOut ⟨schemas, document.facets⟩).run.run middle
      | .error failure => (.error failure, middle) := by
  have planRun : (Action.plan document).run.run store =
      ((liftM (Plan.checkQualified middle.registry (Plan.builtNames schemas) references) >>=
        fun _ => (pure ⟨schemas, document.facets⟩ : Attempt Plan)).run.run middle) := by
    unfold Action.plan
    rw [run_bind_ok planned]
    rfl
  unfold load
  rw [run_bind, planRun, run_bind, run_liftExcept]
  cases Plan.checkQualified middle.registry (Plan.builtNames schemas) references <;> rfl

end Attempt

namespace SchemaDocument

/-- A name that a document gives to a facet and to nothing else, and that was not registered
before. -/
def OnlyFacet (document : SchemaDocument) (registry : Registry) (name : TypeName) : Prop :=
  name ∈ document.facetTypes ∧ name ∉ document.builtNames ∧ registry.types.contains name = false

/-- A name is found in the store that a document leads to, and not just as one of its facets. -/
def Resolves (document : SchemaDocument) (before after : Store) (name : TypeName) : Prop :=
  after.registry.types.contains name = true ∧ ¬document.OnlyFacet before.registry name

end SchemaDocument

namespace Attempt

variable {document : SchemaDocument} {store : Store}

/-- Qualified references decide on the load of a document without other defects. The document
is registered if every reference is found then: among its own types, generated types and
schemas, or in what was registered before. Else the load fails with a reference that is not
found, and leaves notices only. Facets of the document are found as well, but the check does
not know them: a reference to what is a facet only is refused. -/
theorem load_checks_references (faultless : document.Faultless store.registry) :
    ∃ registered, (register document).run.run store = (.ok (), registered) ∧
      (∀ name, registered.registry.types.contains name = true ↔
        name ∈ document.builtNames ∨ name ∈ document.facetTypes ∨
          store.registry.types.contains name = true) ∧
      ((load document).run.run store = (.ok (), registered) ↔
        ∀ reference ∈ document.references, document.Resolves store registered reference) ∧
      ((load document).run.run store = (.ok (), registered) ∨
        ∃ reference ∈ document.references, ¬document.Resolves store registered reference ∧
          ∃ checked, store.Noted checked ∧ (load document).run.run store =
            (.error (.unknownType reference.schema reference.name), checked)) := by
  rcases Action.planSchemas_of_faultless faultless with
    ⟨schemas, middle, planned, noted, built⟩
  have registry : middle.registry = store.registry := noted.choose_spec ▸ rfl
  rcases carryOut_unchecked planned with ⟨registered, run, found⟩
  have loaded := run_load planned
  rw [registry, built] at found loaded
  -- What the check admits is what is found, without the facets of the document.
  have admitted (name : TypeName) : document.Resolves store registered name ↔
      name ∈ document.builtNames ∨ store.registry.types.contains name = true := by
    unfold SchemaDocument.Resolves SchemaDocument.OnlyFacet
    rw [found name, ← Bool.not_eq_true]
    tauto
  refine ⟨registered, (run_bind_ok planned _).trans run, found, ?_⟩
  cases first : document.references.find? fun name =>
      !(document.builtNames.contains name || store.registry.types.contains name) with
  | none =>
      have known : ∀ name ∈ document.references, name ∈ document.builtNames ∨
          store.registry.types.contains name = true := by
        intro name used
        have passed := List.find?_eq_none.mp first name used
        rw [Bool.not_eq_true', Bool.not_eq_false, Bool.or_eq_true] at passed
        exact passed.imp_left List.contains_iff_mem.mp
      rw [Plan.checkQualified_ok_iff.mpr known] at loaded
      have succeeds := loaded.trans run
      exact ⟨iff_of_true succeeds fun name used => (admitted name).mpr (known name used),
        .inl succeeds⟩
  | some reference =>
      have member := List.mem_of_find?_eq_some first
      have refused : ¬document.Resolves store registered reference := by
        have unknown := List.find?_some first
        rw [Bool.not_eq_true', ← Bool.not_eq_true, Bool.or_eq_true, List.contains_iff_mem]
          at unknown
        rwa [admitted]
      rw [Plan.checkQualified_error first] at loaded
      have fails : ¬(load document).run.run store = (.ok (), registered) := by
        rw [loaded]
        exact nofun
      exact ⟨iff_of_false fails fun all => refused (all reference member),
        .inr ⟨reference, member, refused, middle, noted, loaded⟩⟩

/-- References to a type of a later schema, to a generated list and to a schema, and one to a
type that is nowhere. -/
theorem load_checks_forward_references :
    let forward : SchemaDocument := {
      schemas := [
        ("dc", {
          types := [("code", { base := "note:length" })]
          fields := [
            ("tag", { typeName := some "code" }),
            ("file", { fields := [("size", { typeName := some "note:#parts#list" })] }),
            ("note", { typeName := some "note:note", isList := true })] }),
        ("note", {
          types := [("length", { base := "long" })]
          fields := [("parts", { typeName := some "length", isList := true })] })]
      facets := [("card", ["dc"])] }
    let dangling : SchemaDocument := { schemas := [
      ("dc", { fields := [("size", { typeName := some "note:length" })] })] }
    forward.Faultless Store.initial.registry ∧ dangling.Faultless Store.initial.registry ∧
    (∃ registered, (register forward).run.run .initial = (.ok (), registered) ∧
      (load forward).run.run .initial = (.ok (), registered)) ∧
    ∃ checked, Store.initial.Noted checked ∧
      (load dangling).run.run .initial = (.error (.unknownType "note" "length"), checked) := by
  intro forward dangling
  have forwardFaultless : forward.Faultless Store.initial.registry := by decide +kernel
  have danglingFaultless : dangling.Faultless Store.initial.registry := by decide +kernel
  refine ⟨forwardFaultless, danglingFaultless, ?_, ?_⟩
  · rcases load_checks_references forwardFaultless with ⟨registered, run, found, loads, -⟩
    refine ⟨registered, run, loads.mpr fun reference used => ?_⟩
    have built : ∀ reference ∈ forward.references, reference ∈ forward.builtNames := by
      decide +kernel
    exact ⟨(found reference).mpr (.inl (built reference used)),
      fun facet => facet.2.1 (built reference used)⟩
  · rcases load_checks_references danglingFaultless with ⟨registered, run, found, loads, fails⟩
    have unknown : ⟨"note", "length"⟩ ∉ dangling.builtNames ∧
        ⟨"note", "length"⟩ ∉ dangling.facetTypes ∧
        Store.initial.registry.types.contains ⟨"note", "length"⟩ = false := by decide +kernel
    have only : dangling.references = [⟨"note", "length"⟩] := by decide +kernel
    rcases fails with succeeds | ⟨reference, used, -, failed⟩
    · have resolves := loads.mp succeeds ⟨"note", "length"⟩ (only ▸ List.mem_singleton_self _)
      rcases (found _).mp resolves.1 with built | facet | registered
      · exact absurd built unknown.1
      · exact absurd facet unknown.2.1
      · exact absurd registered (Bool.eq_false_iff.mp unknown.2.2)
    · cases List.mem_singleton.mp (only ▸ used)
      exact failed

/-- A field of the type of a facet of the same document is refused, although it would be found
once the document is registered. -/
theorem load_refuses_own_facet :
    let document : SchemaDocument := {
      schemas := [("dc", { fields := [
        ("title", { typeName := some "string" }),
        ("part", { typeName := some "facets:card" })] })]
      facets := [("card", ["dc"])] }
    document.Faultless Store.initial.registry ∧
    document.references = [⟨"facets", "card"⟩] ∧
    ((register document).run.run .initial).1 = .ok () ∧
    ((register document).run.run .initial).2.registry.types.contains ⟨"facets", "card"⟩ = true ∧
    ((load document).run.run .initial).1 = .error (.unknownType "facets" "card") := by
  decide +kernel

end Attempt
end DocumentTypes
