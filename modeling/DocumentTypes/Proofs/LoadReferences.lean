import DocumentTypes.Proofs.CarryOut
import DocumentTypes.Proofs.History

/-! # References of loaded types

After a load that succeeds, the types that it has built refer to registered types only:
to types of the document, whether declared or generated, to types that were registered
before, and to primitives. -/

namespace DocumentTypes.Attempt

/-- What a load does when it succeeds: it makes a sound plan and carries it out. -/
theorem load_ok {document : SchemaDocument} {store after : Store}
    (loaded : (load document).run.run store = (.ok (), after)) :
    ∃ names, store.Grown (Drafting.AimsAt store.registry store.registryId names) after ∧
      ∀ name ∈ names, after.registry.types.contains name = true := by
  unfold load at loaded
  rcases ok_of_run_bind loaded with ⟨plan, middle, planned, carried⟩
  have sound := Action.plan_sound planned
  rcases Action.plan_preserves_noted store document store (.refl store) with ⟨notices, noted⟩
  rw [planned] at noted
  dsimp only at noted
  rcases carryOut_grows sound middle with ⟨result, run, grown, named⟩
  cases run.symm.trans carried
  rw [noted] at grown
  exact ⟨Plan.builtNames plan.schemas, grown.of_notices, named⟩

/-- A load that succeeds leaves nothing dangling: if the primitives were registered, every
reference of every type that it has built means a type of the registry, which is there if
what was registered before is. -/
theorem load_resolves_references {document : SchemaDocument} {store after : Store}
    (primitives : ∀ kind : PrimitiveKind,
      store.registry.types.contains ⟨primitiveSchema, kind.name⟩ = true)
    (loaded : (load document).run.run store = (.ok (), after)) :
    ∀ id type, store.types.size ≤ id.position → after.type? id = some type →
      ∀ reference ∈ type.references, ∃ target ∈ after.registry.types.values,
        after.resolve reference = some target ∧
          (store.TypesExist → (after.type? target).isSome = true) := by
  rcases load_ok loaded with ⟨names, grown, named⟩
  intro id type new found reference member
  rcases grown.built id type new found reference member with ⟨target, rfl, known⟩
  have registered : after.registry.types.contains target = true := by
    rcases known with own | before | ⟨kind, primitive⟩
    · exact named target own
    · exact grown.registered target before
    · exact primitive ▸ grown.registered _ (primitives kind)
  rcases Table.contains_iff.mp registered with ⟨meant, meantFound⟩
  refine ⟨meant, Table.mem_values_iff.mpr ⟨target, meantFound⟩, ?_,
    fun exist => grown.exist exist target meant meantFound⟩
  change (if store.registryId = after.registryId then after.registry.types.get? target
    else none) = some meant
  rw [if_pos grown.registryId_eq.symm, meantFound]

/-- A document with a simple type, a qualified name that points forward, and a list of
fields of its own. -/
theorem load_resolves_nested_references :
    let document : SchemaDocument := { schemas := [
      ("dc", {
        types := [("code", { base := "string" })]
        fields := [
          ("tag", { typeName := some "code" }),
          ("file", {
            isList := true
            fields := [("size", { typeName := some "note:length" })] })] }),
      ("note", { types := [("length", { base := "long" })] })] }
    let after := ((load document).run.run .initial).2
    ((load document).run.run .initial).1 = .ok () ∧
    ((List.range after.types.size).drop Store.initial.types.size).map
        (fun position => ((after.type? ⟨position⟩).map DocumentType.references).map List.length) =
      [some 1, some 1, some 1, some 1, some 2, some 0] ∧
    Store.initial.TypesExist ∧
    ∀ id type, Store.initial.types.size ≤ id.position → after.type? id = some type →
      ∀ reference ∈ type.references, ∃ target ∈ after.registry.types.values,
        after.resolve reference = some target ∧
          (Store.initial.TypesExist → (after.type? target).isSome = true) := by
  intro document after
  have loaded : ((load document).run.run .initial).1 = .ok () := by decide +kernel
  have primitives : ∀ kind : PrimitiveKind,
      Store.initial.registry.types.contains ⟨primitiveSchema, kind.name⟩ = true := by
    intro kind
    cases kind <;> decide +kernel
  refine ⟨loaded, by decide +kernel, Store.Reachable.initial.typesExist, ?_⟩
  exact load_resolves_references primitives (run_eq_ok loaded)

end DocumentTypes.Attempt
