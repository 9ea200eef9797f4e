import DocumentTypes.Proofs.DocumentNames
import DocumentTypes.Proofs.Redrafting
import DocumentTypes.Proofs.Renaming

/-! # Reloading

To load a document once more builds its types anew, under the same names and with
references to the same names. The names in it are resolved in the registry that the first
load has left, so each of them has to mean there what it meant before. -/

namespace DocumentTypes

/-! ## Fresh registries -/

/-- A registry of the primitives alone, all of which are there. -/
structure Store.Fresh (store : Store) : Prop where
  types : ∀ name, store.registry.types.contains name = true →
    ∃ kind : PrimitiveKind, name = ⟨primitiveSchema, kind.name⟩
  exist : store.TypesExist
  schemas : store.registry.schemas = .empty
  qualifiers : store.registry.qualifiers = .empty
  facets : store.registry.facets = .empty

namespace Action

theorem preserves_registerPrimitive_fresh (kind : PrimitiveKind) :
    Preserves Store.Fresh (do registerType (← build (.primitive kind))) := by
  intro store fresh
  rcases run_build (.primitive kind) store with ⟨built, buildRun⟩
  let middle : Store := { store.push ((Blueprint.primitive kind).built store) with notices := built }
  have found : middle.type? store.nextId = some ((Blueprint.primitive kind).built store) :=
    (store.type?_push _ _).trans (if_pos rfl)
  rcases run_registerType found with ⟨notices, run⟩
  have exist : middle.TypesExist := fresh.exist.of_size rfl (by simp [middle, Store.push])
  rw [run_bind, buildRun]
  change Store.Fresh ((registerType store.nextId).run middle).2
  rw [run]
  refine ⟨fun name contained => ?_, ?_, fresh.schemas, fresh.qualifiers, fresh.facets⟩
  · change (store.registry.types.put ⟨primitiveSchema, kind.name⟩ store.nextId).contains name =
      true at contained
    rw [Table.contains_put, Bool.or_eq_true] at contained
    rcases contained with new | old
    · exact ⟨kind, (decide_eq_true_iff.mp new).symm⟩
    · exact fresh.types name old
  · have present : (middle.type? store.nextId).isSome = true := by rw [found]; rfl
    exact exist.put present rfl

theorem fresh_registerPrimitives {store : Store} (empty : store.registry = .empty) :
    Store.Fresh (registerPrimitives.run store).2 := by
  refine Preserves.forM _ (fun kind _ => preserves_registerPrimitive_fresh kind) store ?_
  refine ⟨fun name contained => ?_, fun name id found => ?_, ?_, ?_, ?_⟩
  · rw [empty] at contained
    cases contained
  · rw [empty] at found
    cases found
  all_goals rw [empty]; rfl

end Action

theorem Store.fresh_initial : Store.initial.Fresh := Action.fresh_registerPrimitives rfl

/-! ## Names that keep their meaning -/

/-- No name that means a primitive is taken by the document in the schema that uses it: it
is not the schema's own name, nor that of a facet if the schema is named like theirs. -/
def SchemaDocument.Steady (document : SchemaDocument) : Prop :=
  ∀ entry ∈ document.schemas, ∀ kind : PrimitiveKind, entry.2.Mentions kind.name →
    kind.name ∉ entry.2.types.map Prod.fst → kind.name ≠ entry.1 ∧
      ¬(entry.1 = facetSchema ∧ kind.name ∈ document.facets.map Prod.fst)

theorem PrimitiveKind.mark_notMem_name (kind : PrimitiveKind) :
    Failure.anonymousMark ∉ kind.name.toList := by
  cases kind <;> decide

theorem Planned.agreesOn {store after : Store} {document : SchemaDocument}
    (once : document.NamesOnce) (steady : document.Steady) {plan : Plan}
    (planned : Planned store.registry store.registryId document plan)
    (entered : store.Entered plan.registrations after) {entry : String × SchemaDefinition}
    (member : entry ∈ document.schemas) :
    (Drafting.schemaScope store.registry store.registryId entry.1 entry.2).AgreesOn
      entry.2.Mentions (Drafting.schemaScope after.registry store.registryId entry.1 entry.2) := by
  refine ⟨rfl, rfl, fun name target mentioned meant => ?_⟩
  unfold Scope.meaning? Drafting.schemaScope at meant ⊢
  cases splitted : splitOnce? ':' name with
  | some parts =>
      simp only [splitted] at meant ⊢
      exact meant
  | none =>
      simp only [splitted] at meant ⊢
      by_cases declared : (entry.2.types.map Prod.fst).contains name = true
      · rw [declared, Bool.true_or, if_pos rfl] at meant ⊢
        exact meant
      by_cases registered : store.registry.types.contains ⟨entry.1, name⟩ = true
      · have still := entered.contains_types_iff.mpr (.inr registered)
        rw [registered, Bool.or_true, if_pos rfl] at meant
        rw [still, Bool.or_true, if_pos rfl]
        exact meant
      · have undeclared : name ∉ entry.2.types.map Prod.fst :=
          fun here => declared (List.contains_iff_mem.mpr here)
        rw [Bool.eq_false_iff.mpr declared, Bool.false_or] at meant ⊢
        rw [if_neg registered] at meant
        split at meant
        next primitive =>
          -- A primitive would mean another type only if the document had taken its name.
          rcases Option.isSome_iff_exists.mp primitive with ⟨kind, found⟩
          have named := List.find?_some found
          cases beq_iff_eq.mp named
          have untouched := steady entry member kind mentioned undeclared
          have unregistered : after.registry.types.contains ⟨entry.1, kind.name⟩ ≠ true := by
            intro taken
            rcases entered.contains_types_iff.mp taken with ⟨registration, planMember, named⟩ | old
            · rcases planned.of_unmarked_name planMember named kind.mark_notMem_name with
                ⟨definition, otherMember, ⟨declaration, _, otherDeclared, -⟩ | same⟩ | facet
              · cases eq_of_mem_of_nodup once.schemas member otherMember
                exact undeclared (List.mem_map_of_mem otherDeclared)
              · exact untouched.1 same
              · exact untouched.2 facet
            · exact registered old
          rw [if_neg unregistered, if_pos primitive]
          exact meant
        next => cases meant

/-! ## Types built anew -/

namespace Store

/-- The same registry, but all types from a position on have been built anew. These are
found at ids that are moved on by the number of them. -/
structure Rebuilt (start : Nat) (moved : TypeId → TypeId) (before after : Store) : Prop where
  registryId_eq : after.registryId = before.registryId
  types : ∀ name, after.registry.types.get? name = (before.registry.types.get? name).map moved
  schemas : ∀ name,
    after.registry.schemas.get? name = (before.registry.schemas.get? name).map moved
  facets : ∀ name,
    after.registry.facets.get? name = (before.registry.facets.get? name).map moved
  qualifiers : ∀ qualifier,
    after.registry.qualifiers.get? qualifier = before.registry.qualifiers.get? qualifier
  kept : ∀ id, id.position < start → moved id = id ∧ after.type? id = before.type? id
  built : ∀ id, start ≤ id.position → id.position < before.types.size →
    after.type? (moved id) = (before.type? id).map (DocumentType.rename moved)

theorem or_map_moved {moved : TypeId → TypeId} {found old : Option TypeId}
    (kept : ∀ id, old = some id → moved id = id) :
    (found.map moved).or (found.or old) = (found.or old).map moved := by
  cases found with
  | some id => rfl
  | none =>
      cases old with
      | none => rfl
      | some id =>
          change some id = some (moved id)
          rw [kept id rfl]

theorem Entered.rebuilt {store after again : Store} (fresh : store.Fresh)
    {registrations : List Registration} {admitted : TypeRef → Prop}
    (sound : ∀ registration ∈ registrations, registration.Sound admitted)
    (plain : ∀ reference change, admitted reference → reference.rename change = reference)
    (nodup : (Registration.schemaNames registrations).Nodup)
    (first : store.Entered registrations after) (second : after.Entered registrations again) :
    after.Rebuilt store.types.size (TypeId.shift store.types.size registrations.length) again := by
  have numbered : TypeId.number after.types.size registrations =
      (TypeId.number store.types.size registrations).map fun entry =>
        (entry.1, TypeId.shift store.types.size registrations.length entry.2) := by
    rw [first.size_eq, TypeId.number_shift]
  refine {
    registryId_eq := second.registryId_eq
    types := fun name => ?_
    schemas := fun name => ?_
    facets := fun name => ?_
    qualifiers := fun qualifier => ?_
    kept := fun id old => ?_
    built := fun id new inside => ?_ }
  · rw [second.get?_types, first.get?_types, numbered, Entries.keyed_map, Entries.last?_map]
    refine or_map_moved fun id found => ?_
    have inside := type?_isSome_iff.mp (fresh.exist name id found)
    exact if_pos inside
  · rw [second.get?_schemas, first.get?_schemas, numbered, Entries.keyed_map, Entries.last?_map]
    refine or_map_moved fun id found => ?_
    rw [fresh.schemas] at found
    cases found
  · rw [second.get?_facets, first.get?_facets, numbered, Entries.keyed_map, Entries.last?_map]
    refine or_map_moved fun id found => ?_
    rw [fresh.facets] at found
    cases found
  · rcases first.qualifiers nodup with ⟨firstDeclared, -, firstOwners⟩
    rcases second.qualifiers nodup with ⟨secondDeclared, -, secondOwners⟩
    rw [secondOwners, firstOwners, fresh.qualifiers]
    cases Entries.last? (Registration.claims registrations) qualifier with
    | none => rfl
    | some owner => rfl
  · refine ⟨if_pos old, ?_⟩
    have larger := first.size_eq
    have unlisted : id ∉ after.registry.facets.values := by
      intro member
      rcases Table.mem_values_iff.mp member with ⟨name, found⟩
      rw [first.get?_facets, fresh.facets, Option.or_eq_some_iff] at found
      rcases found with new | ⟨-, none⟩
      · rcases Entries.mem_keyed (Entries.mem_of_last? new) with ⟨entry, present, -, rfl⟩
        have bounds := TypeId.position_of_mem_number present
        omega
      · cases none
    rw [second.old id (by omega), List.count_eq_zero.mpr unlisted]
    cases after.type? id with
    | none => rfl
    | some type => rw [Option.map_some, DocumentType.askedAll_zero]
  · rw [first.size_eq] at inside
    rcases TypeId.mem_number_of_position new inside with ⟨registration, member⟩
    have present : registration ∈ registrations := by
      rw [← TypeId.map_fst_number store.types.size registrations]
      exact List.mem_map_of_mem member
    have again := second.new (registration, TypeId.shift store.types.size registrations.length id)
      (by
        rw [numbered]
        exact List.mem_map_of_mem member)
    rw [again, first.new _ member, Option.map_some, first.registryId_eq,
      (sound registration present).builtAs_rename _ fun reference => plain reference _]

end Store

/-! ## Loading once more -/

namespace Attempt

variable {document : SchemaDocument} {store after : Store}

/-- What was loaded into a fresh registry can be loaded once more. The registry is the same
afterwards but for the ids of the types, which have been built anew; and each of these refers
to the names that its predecessor referred to. -/
theorem load_again (fresh : store.Fresh) (once : document.NamesOnce) (steady : document.Steady)
    (loaded : (load document).run.run store = (.ok (), after)) :
    let moved := TypeId.shift store.types.size (after.types.size - store.types.size)
    ∃ again, (load document).run.run after = (.ok (), again) ∧
      after.Rebuilt store.types.size moved again ∧
      ∀ id type, store.types.size ≤ id.position → after.type? id = some type →
        ∃ successor, again.type? (moved id) = some successor ∧
          successor.references.map TypeRef.target? = type.references.map TypeRef.target? := by
  intro moved
  rcases load_entered loaded with ⟨plan, planned, sound, entered⟩
  have replanned : Planned after.registry after.registryId document plan := by
    rw [entered.registryId_eq]
    refine planned.agree (fun entry member => planned.agreesOn once steady entered member) ?_
    exact fun name before => entered.contains_types_iff.mpr (.inr before)
  rcases load_ok_iff.mpr ⟨plan, replanned⟩ with ⟨again, reloaded⟩
  rcases load_entered reloaded with ⟨other, otherPlanned, -, enteredAgain⟩
  cases replanned.unique otherPlanned
  have nodup : (Registration.schemaNames plan.registrations).Nodup := by
    rw [planned.schemaNames_eq]
    exact once.schemas
  have count : after.types.size - store.types.size = plan.registrations.length := by
    rw [entered.size_eq, Nat.add_sub_cancel_left]
  have rebuilt : after.Rebuilt store.types.size moved again := by
    unfold moved
    rw [count]
    exact entered.rebuilt fresh sound.registrations (fun _ change aims => aims.rename change)
      nodup enteredAgain
  refine ⟨again, reloaded, rebuilt, fun id type new found => ?_⟩
  refine ⟨type.rename moved, ?_, ?_⟩
  · rw [rebuilt.built id new (Store.position_lt found), found]
    rfl
  · rw [DocumentType.references_rename, List.map_map]
    exact List.map_congr_left fun reference _ => TypeRef.target?_rename moved reference

/-- A document with a declared type, a list and a facet, loaded twice. -/
theorem load_again_declared_code :
    let document : SchemaDocument := {
      schemas := [("dc", {
        qualifier := "dc"
        types := [("code", { base := "string" })]
        fields := [
          ("tag", { typeName := some "code" }),
          ("size", { typeName := some "long", isList := true })] })]
      facets := [("record", ["dc"])] }
    let after := ((load document).run.run .initial).2
    let moved := TypeId.shift Store.initial.types.size
      (after.types.size - Store.initial.types.size)
    Store.initial.Fresh ∧ document.NamesOnce ∧ document.Steady ∧
    (load document).run.run .initial = (.ok (), after) ∧
    ∃ again, (load document).run.run after = (.ok (), again) ∧
      after.Rebuilt Store.initial.types.size moved again ∧
      ∀ id type, Store.initial.types.size ≤ id.position → after.type? id = some type →
        ∃ successor, again.type? (moved id) = some successor ∧
          successor.references.map TypeRef.target? = type.references.map TypeRef.target? := by
  intro document after moved
  have loaded : (load document).run.run .initial = (.ok (), after) :=
    run_eq_ok (by decide +kernel)
  have once : document.NamesOnce := by
    refine ⟨by decide, by decide, ?_, ?_⟩
    · intro entry member
      rw [List.mem_singleton.mp member]
      decide
    · intro entry member
      rw [List.mem_singleton.mp member]
      exact .cons trivial (by decide) .nil (.cons trivial (by decide) .nil .nil)
  have steady : document.Steady := by
    intro entry member kind _ _
    rw [List.mem_singleton.mp member]
    cases kind <;> decide
  exact ⟨Store.fresh_initial, once, steady, loaded,
    load_again Store.fresh_initial once steady loaded⟩

/-- If a schema is named like a primitive that it uses, then to load it once more is to give
another meaning to that name: it means the schema, which was not there before. -/
theorem load_again_means_schema :
    let document : SchemaDocument :=
      { schemas := [("string", { fields := [("title", { typeName := some "string" })] })] }
    let after := ((load document).run.run .initial).2
    let again := ((load document).run.run after).2
    let aims (store : Store) (target : TypeName) : Bool :=
      ((store.registry.types.get? ⟨"string", "string"⟩).bind store.type?).any fun type =>
        type.references.map TypeRef.target? = [some target]
    ((load document).run.run .initial).1 = .ok () ∧ ((load document).run.run after).1 = .ok () ∧
      aims after ⟨primitiveSchema, "string"⟩ = true ∧ aims again ⟨"string", "string"⟩ = true := by
  refine ⟨?_, ?_, ?_, ?_⟩ <;> decide +kernel

end Attempt
end DocumentTypes
