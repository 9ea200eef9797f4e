import DocumentTypes.Proofs.DocumentNames
import DocumentTypes.Proofs.Grounding
import DocumentTypes.Proofs.Reordering

/-! # Loads in another order

To load a document with its schemas and types in another order leads to the same registry,
with the same types under other ids. -/

namespace DocumentTypes

open Registration (schemaNames claims)

namespace Registration

theorem toldBy_typeName? (registrations : List Registration) :
    ToldBy typeName typeName? registrations := fun _ _ _ _ _ firstNamed secondNamed =>
  Option.some.inj (firstNamed.trans secondNamed.symm)

theorem toldBy_facetName? (registrations : List Registration) :
    ToldBy typeName facetName? registrations := by
  intro first _ second _ present firstNamed secondNamed
  rcases first with _ | _ | ⟨name, schemas⟩
  · cases firstNamed
  · cases firstNamed
  rcases second with _ | _ | ⟨other, others⟩
  · cases secondNamed
  · cases secondNamed
  cases firstNamed
  cases secondNamed
  rfl

end Registration

theorem Planned.toldBy_schemaName? {registry : Registry} {registryId : RegistryId}
    {document : SchemaDocument} {plan : Plan}
    (planned : Planned registry registryId document plan) :
    ToldBy Registration.typeName Registration.schemaName? plan.registrations := by
  have named : ∀ registration ∈ plan.registrations, ∀ name,
      registration.schemaName? = some name → registration.typeName = ⟨name, name⟩ := by
    intro registration member name schema
    rcases planned.of_mem member with ⟨entry, -, result, drafted, ⟨_, -, rfl⟩ | rfl⟩ |
      ⟨facet, -, rfl⟩
    · cases schema
    · have schemaName := drafted.names.2.1
      change some result.1.schema.name.name = some name at schema
      rw [schemaName] at schema
      cases schema
      exact schemaName
    · cases schema
  intro first firstMember second secondMember present firstNamed secondNamed
  rw [named first firstMember present firstNamed, named second secondMember present secondNamed]

namespace Store

variable {store left right : Store} {first second : List Registration}
  {change : Equiv.Perm TypeId}

/-! ## Types under other ids -/

namespace Entered

section

variable (grounded : store.Grounded) {admitted : TypeRef → Prop}
  (sound : ∀ registration ∈ first, registration.Sound admitted)
  (plain : ∀ reference change, admitted reference → reference.rename change = reference)
  (perm : first.Perm second)
  (renumbers : Renumbers Registration.typeName store.types.size first second change)
  (leftEntered : store.Entered first left) (rightEntered : store.Entered second right)

include grounded perm renumbers leftEntered rightEntered in
theorem type?_old {id : TypeId} (old : id.position < store.types.size) :
    right.type? (change id) = (left.type? id).map (DocumentType.rename change) := by
  have names : (schemaNames first).Perm (schemaNames second) := perm.filterMap _
  have same := (grounded.renamed fun id old => renumbers.fixed id (.inl old)).type?_eq id
  rw [renumbers.fixed id (.inl old)] at same ⊢
  rw [leftEntered.old id old, rightEntered.old id old, Option.map_map]
  refine (congrArg _ same).trans ((Option.map_map _ _ _).trans (congrFun (congrArg _ ?_) _))
  funext type
  rw [Function.comp_apply, Function.comp_apply, DocumentType.askedAll_rename,
    DocumentType.askedAll_perm names]

include sound plain renumbers leftEntered rightEntered in
theorem type?_new {id : TypeId} (new : store.types.size ≤ id.position)
    (inside : id.position < store.types.size + first.length) :
    right.type? (change id) = (left.type? id).map (DocumentType.rename change) := by
  rcases TypeId.mem_number_of_position new inside with ⟨registration, member⟩
  have present : registration ∈ first := by
    rw [← TypeId.map_fst_number store.types.size first]
    exact List.mem_map_of_mem member
  rw [leftEntered.new _ member, rightEntered.new _ (renumbers.moved _ member), Option.map_some,
    (sound registration present).builtAs_rename _ fun reference => plain reference _]

include perm renumbers leftEntered rightEntered in
theorem type?_absent {id : TypeId} (outside : store.types.size + first.length ≤ id.position) :
    right.type? (change id) = (left.type? id).map (DocumentType.rename change) := by
  have absent : ∀ {after : Store}, after.types.size = store.types.size + first.length →
      after.type? id = none := by
    intro after size
    rw [← Option.not_isSome_iff_eq_none, type?_isSome_iff, size]
    exact Nat.not_lt.mpr outside
  rw [renumbers.fixed id (.inr outside), absent leftEntered.size_eq,
    absent (perm.length_eq ▸ rightEntered.size_eq)]
  rfl

include grounded sound plain perm renumbers leftEntered rightEntered in
/-- Registering the same under other ids leads to a renamed store. -/
theorem renamed (told : ToldBy Registration.typeName Registration.schemaName? first)
    (nodup : (schemaNames first).Nodup) (claimed : ((claims first).map Prod.fst).Nodup) :
    left.Renamed change right := by
  have unchanged := grounded.renamed fun id old => renumbers.fixed id (.inl old)
  have names : (schemaNames first).Perm (schemaNames second) := perm.filterMap _
  have claimsPerm : (claims first).Perm (claims second) := perm.filterMap _
  refine {
    size_eq := by rw [rightEntered.size_eq, leftEntered.size_eq, perm.length_eq]
    registryId_eq := rightEntered.registryId_eq.trans leftEntered.registryId_eq.symm
    type?_eq := fun id => ?_
    types := fun name => ?_
    schemas := fun name => ?_
    facets := fun name => ?_
    qualifiers := fun qualifier => ?_
    fieldLookups := fun name => ?_
    held := ?_ }
  · by_cases old : id.position < store.types.size
    · exact type?_old grounded perm renumbers leftEntered rightEntered old
    by_cases inside : id.position < store.types.size + first.length
    · exact type?_new sound plain renumbers leftEntered rightEntered (Nat.le_of_not_lt old) inside
    · exact type?_absent perm renumbers leftEntered rightEntered (Nat.le_of_not_lt inside)
  · rw [leftEntered.get?_types, rightEntered.get?_types, Option.map_or, ← unchanged.types,
      renumbers.last (Registration.toldBy_typeName? first)]
  · rw [leftEntered.get?_schemas, rightEntered.get?_schemas, Option.map_or, ← unchanged.schemas,
      renumbers.last told]
  · rw [leftEntered.get?_facets, rightEntered.get?_facets, Option.map_or, ← unchanged.facets,
      renumbers.last (Registration.toldBy_facetName? first)]
  · rcases leftEntered.qualifiers nodup with ⟨leftDeclared, leftAgrees, leftOwners⟩
    rcases rightEntered.qualifiers (names.nodup_iff.mp nodup) with
      ⟨rightDeclared, rightAgrees, rightOwners⟩
    rw [leftOwners, rightOwners, Entries.last?_perm claimsPerm claimed]
    rw [keepsQualifier_congr names fun owner member => ?_]
    rw [leftAgrees grounded.schemasExist owner member,
      rightAgrees grounded.schemasExist owner (names.mem_iff.mp member)]
  · rw [leftEntered.fieldLookups_eq, rightEntered.fieldLookups_eq]
    have none : schemaNames second = [] ↔ schemaNames first = [] := by
      rw [← List.length_eq_zero_iff, ← List.length_eq_zero_iff, names.length_eq]
    simp only [none]
    split
    · exact unchanged.fieldLookups name
    · rfl
  · rw [leftEntered.holdings_eq, rightEntered.holdings_eq]
    exact unchanged.held

end

end Entered

/-! ## The same answers -/

/-- Whatever is asked of one store, the other one gives the same answer with other ids in
it. -/
structure AgreesUpTo (change : Equiv.Perm TypeId) (left right : Store) : Prop where
  type? : ∀ id, right.type? (change id) = (left.type? id).map (DocumentType.rename change)
  types : ∀ name, right.registry.types.get? name = (left.registry.types.get? name).map change
  schemas : ∀ name,
    right.registry.schemas.get? name = (left.registry.schemas.get? name).map change
  schemaByQualifier? : ∀ qualifier, right.registry.schemaByQualifier? qualifier =
    (left.registry.schemaByQualifier? qualifier).map change
  facets : ∀ name, right.registry.facets.get? name = (left.registry.facets.get? name).map change
  resolve : ∀ reference,
    right.resolve (reference.rename change) = (left.resolve reference).map change
  snapshotOf : ∀ id, ((Action.snapshotOf (change id)).run right).1 =
    (((Action.snapshotOf id).run left).1).rename change
  fieldsOf : ∀ id, ((Action.fieldsOf (change id)).run right).1 =
    (((Action.fieldsOf id).run left).1).map (Field.rename change)
  lookUp : ∀ id name, ((Action.lookUp (change id) name).run right).1 =
    (((Action.lookUp id name).run left).1).map (Field.rename change)
  fieldAt : ∀ id path, ((Action.fieldAt (change id) path).run right).1 =
    (((Action.fieldAt id path).run left).1).map (Field.rename change)
  registeredField : ∀ path, ((Action.registeredField path).run right).1 =
    (((Action.registeredField path).run left).1).map (Field.rename change)

theorem Renamed.agreesUpTo (renamed : left.Renamed change right) :
    left.AgreesUpTo change right where
  type? := renamed.type?_eq
  types := renamed.types
  schemas := renamed.schemas
  schemaByQualifier? := renamed.schemaByQualifier?_eq
  facets := renamed.facets
  resolve := renamed.resolve_eq
  snapshotOf id := (Action.carries_snapshotOf id left right renamed).1
  fieldsOf id := (Action.carries_fieldsOf id left right renamed).1
  lookUp id name := (Action.carries_lookUp id name left right renamed).1
  fieldAt id path := (Action.carries_fieldAt id path left right renamed).1
  registeredField path := (Action.carries_registeredField path left right renamed).1

end Store

/-! ## Loads -/

/-- The qualifiers that the schemas of a document claim. -/
def SchemaDocument.qualifiers (document : SchemaDocument) : List String :=
  (document.schemas.map fun entry => entry.2.space.qualifier).filter (· ≠ "")

theorem Planned.map_fst_claims {registry : Registry} {registryId : RegistryId}
    {document : SchemaDocument} {plan : Plan}
    (planned : Planned registry registryId document plan) :
    (claims plan.registrations).map Prod.fst = document.qualifiers := by
  rw [planned.claims_eq, List.map_filterMap, SchemaDocument.qualifiers, List.filter_map,
    ← List.filterMap_eq_map, List.filterMap_filter]
  congr 1
  funext entry
  by_cases empty : entry.2.space.qualifier = "" <;> simp [empty]

namespace Attempt

variable {first second : SchemaDocument} {store left right : Store}

theorem load_ok_iff_of_reordered (once : first.NamesOnce) (reordered : first.Reordered second) :
    (∃ left, (load first).run.run store = (.ok (), left)) ↔
      ∃ right, (load second).run.run store = (.ok (), right) := by
  rw [load_ok_iff, load_ok_iff]
  constructor
  · rintro ⟨plan, planned⟩
    rcases planned.reordered reordered once with ⟨other, otherPlanned, -⟩
    exact ⟨other, otherPlanned⟩
  · rintro ⟨plan, planned⟩
    rcases planned.reordered reordered.symm (reordered.namesOnce once) with ⟨other, otherPlanned, -⟩
    exact ⟨other, otherPlanned⟩

theorem agreesUpTo_of_reordered (grounded : store.Grounded) (once : first.NamesOnce)
    (distinct : first.qualifiers.Nodup) (reordered : first.Reordered second)
    (leftLoaded : (load first).run.run store = (.ok (), left))
    (rightLoaded : (load second).run.run store = (.ok (), right)) :
    ∃ change : Equiv.Perm TypeId, (∀ id, id.position < store.types.size → change id = id) ∧
      left.AgreesUpTo change right := by
  rcases load_entered leftLoaded with ⟨plan, planned, sound, leftEntered⟩
  rcases load_entered rightLoaded with ⟨other, otherPlanned, -, rightEntered⟩
  rcases planned.reordered reordered once with ⟨again, againPlanned, same⟩
  cases againPlanned.unique otherPlanned
  have shuffled := Shuffled.of_filter_eq same
  rcases shuffled.renumbers store.types.size with ⟨change, renumbers⟩
  have nodup : (schemaNames plan.registrations).Nodup := by
    rw [planned.schemaNames_eq]
    exact once.schemas
  have claimed : ((claims plan.registrations).map Prod.fst).Nodup := by
    rw [planned.map_fst_claims]
    exact distinct
  have renamed := Store.Entered.renamed grounded sound.registrations
    (fun _ change aims => aims.rename change) shuffled.perm renumbers leftEntered rightEntered
    planned.toldBy_schemaName? nodup claimed
  exact ⟨change, fun id old => renumbers.fixed id (.inl old), renamed.agreesUpTo⟩

/-- The order of schemas and types in a document does not matter. It can be loaded in one
order if it can be loaded in the other; and then all lookups, facets and fields are the same,
up to the ids of the types that have been built. -/
theorem load_reordered (grounded : store.Grounded) (once : first.NamesOnce)
    (distinct : first.qualifiers.Nodup) (reordered : first.Reordered second) :
    ((∃ left, (load first).run.run store = (.ok (), left)) ↔
      ∃ right, (load second).run.run store = (.ok (), right)) ∧
    ∀ left right, (load first).run.run store = (.ok (), left) →
      (load second).run.run store = (.ok (), right) →
      ∃ change : Equiv.Perm TypeId, (∀ id, id.position < store.types.size → change id = id) ∧
        left.AgreesUpTo change right :=
  ⟨load_ok_iff_of_reordered once reordered, fun _ _ leftLoaded rightLoaded =>
    agreesUpTo_of_reordered grounded once distinct reordered leftLoaded rightLoaded⟩

/-- Two schemas, of which one refers to a type of the other, and a facet of both. The facet was
there before. -/
theorem load_reordered_two_schemas :
    let code : String × SimpleTypeDefinition := ("code", { base := "string" })
    let size : String × SimpleTypeDefinition := ("size", { base := "code" })
    let dublin (types : List (String × SimpleTypeDefinition)) : SchemaDefinition :=
      { qualifier := some "d", types, fields := [("tag", { typeName := some "size" })] }
    let note : SchemaDefinition :=
      { qualifier := some "n", fields := [("about", { typeName := some "dc:code" })] }
    let document (schemas : List (String × SchemaDefinition)) : SchemaDocument :=
      { schemas, facets := [("record", ["dc", "note"])] }
    let first := document [("dc", dublin [code, size]), ("note", note)]
    let second := document [("note", note), ("dc", dublin [size, code])]
    let store := Operation.perform (.registerFacet "record" ["dc"]) .initial
    let left := ((load first).run.run store).2
    let right := ((load second).run.run store).2
    store.Grounded ∧ first.NamesOnce ∧ first.qualifiers.Nodup ∧ first.Reordered second ∧
    (load first).run.run store = (.ok (), left) ∧
    (load second).run.run store = (.ok (), right) ∧
    left.registry.types.get? ⟨"dc", "code"⟩ ≠ right.registry.types.get? ⟨"dc", "code"⟩ ∧
    ∃ change : Equiv.Perm TypeId,
      (∀ id, id.position < store.types.size → change id = id) ∧
        left.AgreesUpTo change right := by
  intro code size dublin note document first second store left right
  have attained : store.Attained := .performed .initial (List.forall_mem_nil _)
  have loaded : (load first).run.run store = (.ok (), left) := run_eq_ok (by decide +kernel)
  have loadedToo : (load second).run.run store = (.ok (), right) := run_eq_ok (by decide +kernel)
  have once : first.NamesOnce := by
    refine ⟨by decide, by decide, ?_, ?_⟩
    · intro entry member
      rcases List.mem_pair.mp member with rfl | rfl <;> decide
    · intro entry member
      rcases List.mem_pair.mp member with rfl | rfl <;> exact .cons trivial (by decide) .nil .nil
  have reordered : first.Reordered second :=
    ⟨⟨[("note", note), ("dc", dublin [code, size])], .swap _ _ _,
      .cons ⟨rfl, rfl, rfl, .refl _, rfl⟩ (.cons ⟨rfl, rfl, rfl, .swap _ _ _, rfl⟩ .nil)⟩, rfl⟩
  have distinct : first.qualifiers.Nodup := by decide
  exact ⟨attained.grounded, once, distinct, reordered, loaded, loadedToo, by decide +kernel,
    (load_reordered attained.grounded once distinct reordered).2 left right loaded loadedToo⟩

/-- So the order of schemas and types in a text does not matter either, whatever has been done
before. No text has a name twice. -/
theorem loadText_reordered {text other : String} (attained : store.Attained)
    (read : SchemaDocument.ofText text = .ok first)
    (otherRead : SchemaDocument.ofText other = .ok second) (distinct : first.qualifiers.Nodup)
    (reordered : first.Reordered second) :
    ((∃ left, (loadText text).run.run store = (.ok (), left)) ↔
      ∃ right, (loadText other).run.run store = (.ok (), right)) ∧
    ∀ left right, (loadText text).run.run store = (.ok (), left) →
      (loadText other).run.run store = (.ok (), right) →
      ∃ change : Equiv.Perm TypeId, (∀ id, id.position < store.types.size → change id = id) ∧
        left.AgreesUpTo change right := by
  have once := SchemaDocument.ofText_namesOnce read
  have run {text : String} {document : SchemaDocument}
      (read : SchemaDocument.ofText text = .ok document) :
      (loadText text).run.run store = (load document).run.run store := by
    rw [loadText, run_bind, run_liftExcept, read]
  rw [run read, run otherRead]
  exact ⟨load_ok_iff_of_reordered once reordered, fun _ _ leftLoaded rightLoaded =>
    agreesUpTo_of_reordered attained.grounded once distinct reordered leftLoaded rightLoaded⟩

end Attempt
end DocumentTypes
