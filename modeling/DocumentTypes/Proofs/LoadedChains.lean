import DocumentTypes.Proofs.ChainEnds
import DocumentTypes.Proofs.LoadOutcome
import DocumentTypes.Proofs.LoadReferences

/-! # Chains of loaded types

A load checks that the base of every declared type has a meaning, but not that the bases
lead anywhere. A type may be its own base. So the chains of bases end after a load just as
far as they come to no declared type that leads back to itself; and then all that follows
them is done. -/

namespace DocumentTypes

variable {before after : Store} {id other : TypeId} {registrations : List Registration}

/-! ## What is held after a load -/

theorem Registration.Sound.held_eq_nil {registration : Registration} {registry : Registry}
    {registryId : RegistryId} {names : List TypeName}
    (sound : registration.Sound (Drafting.AimsAt registry registryId names)) (id : TypeId) :
    ((registration.blueprint registryId).builtAs id).held = [] := by
  have named {reference : TypeRef} (aims : Drafting.AimsAt registry registryId names reference) :
      reference.held = [] := by
    rcases aims with ⟨target, rfl, -⟩
    rfl
  have refers {blueprint : Blueprint}
      (refers : blueprint.Refers (Drafting.AimsAt registry registryId names)) :
      (blueprint.builtAs id).held = [] := by
    rcases blueprint with ⟨name, base, flags, body⟩
    cases body with
    | primitive | composite => cases refers
    | simple => exact List.append_eq_nil_iff.mpr ⟨named refers.2, rfl⟩
    | list =>
        rcases refers with ⟨rfl, aims⟩
        exact named aims
    | complex =>
        rcases refers with ⟨rfl, aims⟩
        refine List.flatMap_eq_nil_iff.mpr fun field member => ?_
        rcases ComplexType.valueType_of_declareAll member with declared | inherited
        · rcases List.mem_map.mp declared with ⟨declaration, declarationMember, same⟩
          exact named (same ▸ aims declaration declarationMember)
        · cases inherited
  cases registration with
  | type => exact refers sound
  | schema => exact refers sound.1
  | facet name schemas =>
      have merged := congrArg Snapshot.held (CompositeType.merged_addAll
        (schemas.map (.schema registryId)) .empty)
      refine List.append_eq_nil_iff.mpr ⟨rfl, List.append_eq_nil_iff.mpr ⟨?_, merged⟩⟩
      refine List.flatMap_eq_nil_iff.mpr fun reference member => ?_
      have own := CompositeType.mem_references_addAll member
      rcases List.mem_map.mp (own.resolve_right List.not_mem_nil) with ⟨schema, -, rfl⟩
      rfl

theorem DocumentType.base_mem_references (type : DocumentType) (reference : TypeRef)
    (base : some type.base = some reference) :
    reference = .null ∨ reference ∈ type.references := by
  cases base
  cases isNull : type.base.isNull with
  | true =>
      cases null : type.base with
      | null => exact .inl rfl
      | named | schema | direct | owner => rw [null] at isNull; cases isNull
  | false => exact .inr (List.mem_append_left _ (by simp [isNull]))

theorem DocumentType.item_mem_references (type : DocumentType) (reference : TypeRef)
    (item : Store.itemReference? type = some reference) :
    reference = .null ∨ reference ∈ type.references := by
  rcases type with ⟨name, base, flags, kind⟩
  cases kind <;> cases item
  exact .inr (List.mem_append_right _ List.mem_cons_self)

namespace Store.Entered

variable {names : List TypeName} {registry : Registry}

theorem holdsType_old (entered : before.Entered registrations after)
    (old : id.position < before.types.size) :
    after.holdsType id other = before.holdsType id other := by
  rw [holdsType, holdsType, entered.old id old, Option.any_map]
  congr 1
  funext type
  exact congrArg (List.contains · other)
    (DocumentType.part_askedAll DocumentType.held (fun _ _ _ _ _ => rfl) _ _ type)

theorem exists_registration (entered : before.Entered registrations after)
    (new : before.types.size ≤ id.position) {type : DocumentType}
    (found : after.type? id = some type) : ∃ registration ∈ registrations,
      type = (registration.blueprint before.registryId).builtAs id := by
  have inside : id.position < before.types.size + registrations.length :=
    entered.size_eq ▸ position_lt found
  rcases TypeId.mem_number_of_position new inside with ⟨registration, member⟩
  refine ⟨registration, ?_, Option.some.inj (found.symm.trans (entered.new _ member))⟩
  rw [← TypeId.map_fst_number before.types.size registrations]
  exact List.mem_map_of_mem member

theorem new_or_old {κ : Type} [DecidableEq κ] {key? : Registration → Option κ} {key : κ}
    {table : Table κ TypeId} (found : (Entries.last? (Entries.keyed key?
      (TypeId.number before.types.size registrations)) key).or (table.get? key) = some id) :
    before.types.size ≤ id.position ∨ table.get? key = some id := by
  rcases Option.or_eq_some_iff.mp found with new | ⟨-, old⟩
  · rcases Entries.mem_keyed (Entries.mem_of_last? new) with ⟨entry, member, -, rfl⟩
    exact .inl (TypeId.position_of_mem_number member).1
  · exact .inr old

theorem mem_roots (entered : before.Entered registrations after) (root : id ∈ after.roots) :
    before.types.size ≤ id.position ∨ id ∈ before.roots := by
  have table {κ : Type} [DecidableEq κ] {key? : Registration → Option κ}
      {early late : Table κ TypeId} (grown : late = early.putAll (Entries.keyed key?
        (TypeId.number before.types.size registrations))) (member : id ∈ late.values) :
      before.types.size ≤ id.position ∨ id ∈ early.values := by
    rcases Table.mem_values_iff.mp member with ⟨key, found⟩
    rw [grown, Table.get?_putAll] at found
    exact (new_or_old found).imp_right fun old => Table.mem_values_iff.mpr ⟨key, old⟩
  unfold roots Registry.held at root ⊢
  rw [entered.holdings_eq] at root
  simp only [List.mem_append] at root ⊢
  rcases root with (((types | schemas) | facets) | lookups) | holdings
  · exact (table entered.types_eq types).imp_right fun old => .inl (.inl (.inl (.inl old)))
  · exact (table entered.schemas_eq schemas).imp_right fun old => .inl (.inl (.inl (.inr old)))
  · exact (table entered.facets_eq facets).imp_right fun old => .inl (.inl (.inr old))
  · rw [entered.fieldLookups_eq] at lookups
    split at lookups
    · exact .inr (.inl (.inr lookups))
    · cases lookups
  · exact .inr (.inr holdings)

variable (entered : before.Entered registrations after)
  (sound : ∀ registration ∈ registrations,
    registration.Sound (Drafting.AimsAt registry before.registryId names))

include entered sound

theorem isAlive_old (alive : after.isAlive id = true) (old : id.position < before.types.size) :
    before.isAlive id = true := by
  let group (id : TypeId) : Prop := after.isAlive id = true ∧ id.position < before.types.size
  have supports : ∀ id, group id → id ∈ before.roots ∨
      ∃ holder, group holder ∧ before.holdsType holder id = true := by
    rintro id ⟨alive, old⟩
    rcases support_of_isAlive alive with root | ⟨holder, holderAlive, holds⟩
    · exact .inl ((entered.mem_roots root).resolve_left (Nat.not_le.mpr old))
    · by_cases new : before.types.size ≤ holder.position
      · rcases holdsType_iff.mp holds with ⟨type, found, member⟩
        rcases entered.exists_registration new found with ⟨registration, present, rfl⟩
        rw [(sound registration present).held_eq_nil] at member
        cases member
      · have holderOld := Nat.lt_of_not_le new
        exact .inr ⟨holder, ⟨holderAlive, holderOld⟩, entered.holdsType_old holderOld ▸ holds⟩
  have inside : ∀ id, group id → id.position < before.types.size := fun _ member => member.2
  exact isAlive_of_supported inside supports ⟨alive, old⟩

theorem resolve_new_or_old {reference : TypeRef} (found : after.resolve reference = some id) :
    before.types.size ≤ id.position ∨ before.resolve reference = some id := by
  cases reference with
  | null => cases found
  | direct => exact .inr found
  | named registry target =>
      unfold resolve at found ⊢
      dsimp only at found ⊢
      rw [entered.registryId_eq, entered.get?_types] at found
      split at found
      next same => exact (new_or_old found).imp_right fun old => (if_pos same).trans old
      next => cases found
  | schema registry name =>
      unfold resolve at found ⊢
      dsimp only at found ⊢
      rw [entered.registryId_eq, entered.get?_schemas] at found
      split at found
      next same => exact (new_or_old found).imp_right fun old => (if_pos same).trans old
      next => cases found
  | owner owner target =>
      unfold resolve at found ⊢
      dsimp only at found ⊢
      split at found
      next alive =>
        cases found
        by_cases new : before.types.size ≤ id.position
        · exact .inl new
        · exact .inr (if_pos (entered.isAlive_old sound alive (Nat.lt_of_not_le new)))
      next => cases found

/-! ## Where references lead after a load -/

variable {reference? : DocumentType → Option TypeRef}

theorem along_old (asked : ∀ name base flags (composite : CompositeType) requested,
      reference? ⟨name, base, flags, .composite { composite with requested }⟩ =
        reference? ⟨name, base, flags, .composite composite⟩)
    (old : ¬before.types.size ≤ id.position) (step : after.along reference? id = some other) :
    before.types.size ≤ other.position ∨ before.along reference? id = some other := by
  rcases Option.bind_eq_some_iff.mp step with ⟨type, found, onward⟩
  rcases Option.bind_eq_some_iff.mp onward with ⟨reference, given, resolved⟩
  rw [entered.old id (Nat.lt_of_not_le old)] at found
  rcases Option.map_eq_some_iff.mp found with ⟨earlier, earlierFound, rfl⟩
  rw [DocumentType.part_askedAll reference? asked] at given
  refine (entered.resolve_new_or_old sound resolved).imp_right fun same => ?_
  rw [along, earlierFound, Option.bind_some, given, Option.bind_some, same]

theorem along_new (among : ∀ type reference, reference? type = some reference →
      reference = .null ∨ reference ∈ type.references)
    {others : List TypeName}
    (grown : before.Grown (Drafting.AimsAt registry before.registryId others) after)
    (new : before.types.size ≤ id.position) (step : after.along reference? id = some other) :
    before.types.size ≤ other.position ∨ other ∈ before.registry.types.values := by
  rcases Option.bind_eq_some_iff.mp step with ⟨type, found, onward⟩
  rcases Option.bind_eq_some_iff.mp onward with ⟨reference, given, resolved⟩
  rcases among type reference given with rfl | member
  · cases resolved
  · rcases grown.built id type new found reference member with ⟨target, rfl, -⟩
    refine (entered.resolve_new_or_old sound resolved).imp_right fun same => ?_
    exact Table.mem_values_iff.mpr ⟨target, by simpa [resolve] using same⟩

/-- Ways that ended before end now, unless they come to new types that lead back to
themselves. -/
theorem along_ends_iff (reference? : DocumentType → Option TypeRef)
    (asked : ∀ name base flags (composite : CompositeType) requested,
      reference? ⟨name, base, flags, .composite { composite with requested }⟩ =
        reference? ⟨name, base, flags, .composite composite⟩)
    (among : ∀ type reference, reference? type = some reference →
      reference = .null ∨ reference ∈ type.references) {others : List TypeName}
    (grown : before.Grown (Drafting.AimsAt registry before.registryId others) after)
    (finite : ∀ id ∈ before.registry.types.values,
      ∃ path last, Ends (before.along reference?) id path last)
    (present : before.types.size ≤ id.position ∨ id ∈ after.registry.types.values) :
    (∃ path last, Ends (after.along reference?) id path last) ↔
      ¬∃ turn, before.types.size ≤ turn.position ∧
        Reaches (after.along reference?) id turn ∧ Turns (after.along reference?) turn := by
  have start : before.types.size ≤ id.position ∨ id ∈ before.registry.types.values := by
    refine present.elim .inl fun registered => ?_
    rcases Table.mem_values_iff.mp registered with ⟨name, found⟩
    rw [entered.get?_types] at found
    exact (new_or_old found).imp_right fun old => Table.mem_values_iff.mpr ⟨name, old⟩
  have kept (place other : TypeId) (old : ¬before.types.size ≤ place.position)
      (step : after.along reference? place = some other) :
      before.types.size ≤ other.position ∨ before.along reference? place = some other :=
    entered.along_old sound asked old step
  have onward (place other : TypeId) (new : before.types.size ≤ place.position)
      (step : after.along reference? place = some other) :
      before.types.size ≤ other.position ∨
        ∃ path last, Ends (before.along reference?) other path last :=
    (entered.along_new sound among grown new step).imp_right (finite other)
  exact ends_iff_no_fresh_turns kept (after.finite_along reference?) onward
    (start.imp_right (finite id))

end Store.Entered

/-! ## Chains after a load -/

/-- A type that a load has built for a declaration of the document. -/
def SchemaDocument.Declares (document : SchemaDocument) (before after : Store) (id : TypeId) :
    Prop :=
  before.types.size ≤ id.position ∧
    ∃ schema ∈ document.schemas, ∃ declaration ∈ schema.2.types, ∃ blueprint,
      Drafting.simpleBlueprint? (Drafting.schemaScope before.registry before.registryId
        schema.1 schema.2) declaration.1 declaration.2 = some blueprint ∧
      after.type? id = some (blueprint.builtAs id)

theorem Planned.declared_of_base {registry : Registry} {registryId : RegistryId}
    {document : SchemaDocument} {plan : Plan} (planned : Planned registry registryId document plan)
    {registration : Registration} (member : registration ∈ plan.registrations)
    (derives : (registration.blueprint registryId).base ≠ .null) :
    ∃ schema ∈ document.schemas, ∃ declaration ∈ schema.2.types, ∃ blueprint,
      Drafting.simpleBlueprint? (Drafting.schemaScope registry registryId schema.1 schema.2)
        declaration.1 declaration.2 = some blueprint ∧ registration = .type blueprint := by
  rcases planned.of_mem member with ⟨schema, schemaMember, result, drafted, kinds⟩ | ⟨_, -, rfl⟩
  · rcases kinds with ⟨blueprint, present, rfl⟩ | rfl
    · rcases drafted.of_mem present with ⟨declaration, declared, here, -⟩ | ⟨_, -, none⟩
      · exact ⟨schema, schemaMember, declaration, declared, blueprint, here, rfl⟩
      · exact absurd none derives
    · rcases drafted with ⟨-, -, -⟩
      exact absurd rfl derives
  · exact absurd rfl derives

namespace Attempt

variable {document : SchemaDocument}

/-- Suppose that the chains of all registered types end before a load that succeeds. After it,
the chain of a type that is registered or new ends just if it comes to no declared type that
leads back to itself. All that follows a chain that ends is done. Texts are read likewise
through lists, if the lists come to no new list that leads back to itself. -/
theorem load_chains_end (loaded : (load document).run.run before = (.ok (), after))
    (finite : ∀ id ∈ before.registry.types.values, ∃ path root, Ends before.base? id path root)
    (present : before.types.size ≤ id.position ∨ id ∈ after.registry.types.values) :
    ((∃ path root, Ends after.base? id path root) ↔
      ¬∃ turn, document.Declares before after turn ∧
        Reaches after.base? id turn ∧ Turns after.base? turn) ∧
    (∀ path root, Ends after.base? id path root → after.Done id path root) ∧
    ((∀ id ∈ before.registry.types.values, ∃ items last, Ends before.item? id items last) →
      ((∃ items last, Ends after.item? id items last) ↔
        ¬∃ turn, before.types.size ≤ turn.position ∧
          Reaches after.item? id turn ∧ Turns after.item? turn)) := by
  rcases load_entered loaded with ⟨plan, planned, sound, entered⟩
  rcases load_ok loaded with ⟨names, grown, -⟩
  have bases := entered.along_ends_iff sound.registrations (fun type => some type.base)
    (fun _ _ _ _ _ => rfl) DocumentType.base_mem_references grown finite present
  refine ⟨bases.trans (not_congr ?_), fun path root => Store.done_of_ends, fun itemsEnd => ?_⟩
  · refine exists_congr fun turn => ⟨fun ⟨new, reaches, turns⟩ => ⟨⟨new, ?_⟩, reaches, turns⟩,
      fun ⟨⟨new, _⟩, reaches, turns⟩ => ⟨new, reaches, turns⟩⟩
    rcases Relation.TransGen.head'_iff.mp turns with ⟨base, step, -⟩
    rcases Option.bind_eq_some_iff.mp step with ⟨type, found, resolved⟩
    rcases entered.exists_registration new found with ⟨registration, member, rfl⟩
    have derives : (registration.blueprint before.registryId).base ≠ .null := by
      intro null
      change after.resolve (registration.blueprint before.registryId).base = some base at resolved
      rw [null] at resolved
      cases resolved
    rcases planned.declared_of_base member derives with
      ⟨schema, schemaMember, declaration, declared, blueprint, here, rfl⟩
    exact ⟨schema, schemaMember, declaration, declared, blueprint, here, found⟩
  · exact entered.along_ends_iff sound.registrations Store.itemReference? (fun _ _ _ _ _ => rfl)
      DocumentType.item_mem_references grown itemsEnd present

/-- A type that is redefined in a way that leads forward, and one from before that derives
from it. -/
theorem load_chains_end_after_redefinition :
    let earlier : SchemaDocument := { schemas := [
      ("dc", { types := [("code", { base := "string" })] }),
      ("note", { types := [("mark", { base := "dc:code" })] })] }
    let document : SchemaDocument := { schemas := [
      ("dc", { types := [("code", { base := "grade" }), ("grade", { base := "long" })] })] }
    let before := ((load earlier).run.run .initial).2
    let after := ((load document).run.run before).2
    ((load document).run.run before).1 = .ok () ∧
    (∀ id ∈ before.registry.types.values, ∃ path root, Ends before.base? id path root) ∧
    after.registry.types.get? ⟨"note", "mark"⟩ = some ⟨9⟩ ∧
    Ends after.base? ⟨9⟩ [⟨9⟩, ⟨12⟩, ⟨13⟩] ⟨3⟩ ∧ after.Done ⟨9⟩ [⟨9⟩, ⟨12⟩, ⟨13⟩] ⟨3⟩ ∧
    ¬∃ turn, document.Declares before after turn ∧
      Reaches after.base? ⟨9⟩ turn ∧ Turns after.base? turn := by
  intro earlier document before
  have loaded : ((load document).run.run before).1 = .ok () := by decide +kernel
  have few : ∀ id ∈ before.registry.types.values, (before.ancestors 3 id).length < 3 := by
    decide +kernel
  have finite : ∀ id ∈ before.registry.types.values,
      ∃ path root, Ends before.base? id path root :=
    fun id member => Store.exists_ends_of_ancestors (few id member)
  have registered : ((load document).run.run before).2.registry.types.get? ⟨"note", "mark"⟩ =
      some ⟨9⟩ := by decide +kernel
  have ends : Ends ((load document).run.run before).2.base? ⟨9⟩ [⟨9⟩, ⟨12⟩, ⟨13⟩] ⟨3⟩ :=
    .on (by decide +kernel) (.on (by decide +kernel) (.on (by decide +kernel)
      (.here (by decide +kernel))))
  have shown := load_chains_end (run_eq_ok loaded) finite
    (.inr (Table.mem_values_iff.mpr ⟨_, registered⟩))
  exact ⟨loaded, finite, registered, ends, shown.2.1 _ _ ends, shown.1.mp ⟨_, _, ends⟩⟩

/-- A declared type may be its own base, and then its chain never comes to an end. -/
theorem load_type_over_itself :
    let document : SchemaDocument := { schemas := [("s", { types := [("a", { base := "a" })] })] }
    let after := ((load document).run.run .initial).2
    ((load document).run.run .initial).1 = .ok () ∧
    (∀ id ∈ Store.initial.registry.types.values,
      ∃ path root, Ends Store.initial.base? id path root) ∧
    after.registry.types.get? ⟨"s", "a"⟩ = some ⟨8⟩ ∧
    (¬∃ path root, Ends after.base? ⟨8⟩ path root) ∧
    ∀ count, after.ancestors count ⟨8⟩ = List.replicate count ⟨8⟩ := by
  intro document after
  have few : ∀ id ∈ Store.initial.registry.types.values,
      (Store.initial.ancestors 1 id).length < 1 := by decide +kernel
  have step : after.base? ⟨8⟩ = some ⟨8⟩ := by decide +kernel
  refine ⟨by decide +kernel, fun id member => Store.exists_ends_of_ancestors (few id member),
    by decide +kernel, ?_, fun count => ?_⟩
  · rintro ⟨path, root, ends⟩
    exact ends.not_turns .refl (.single step)
  · induction count with
    | zero => rfl
    | succ count induction => rw [Store.ancestors, step, List.replicate_succ, ← induction]

end Attempt
end DocumentTypes
