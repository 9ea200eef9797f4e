import DocumentTypes.Proofs.Filing

/-! # Owners of qualifiers

A qualifier is owned by one schema at most, the last that was registered with it. Whatever
has been done to a registry, an owner is a registered schema that declares what it owns.
The converse does not hold: when an owner is removed or declares another qualifier, its
qualifier does not go back to an earlier schema that still declares it. -/

namespace DocumentTypes

def Filing.claimant? (qualifier : String) : Filing → Option TypeId
  | .schema id _ declared => if declared = qualifier then some id else none
  | _ => none

namespace Store

variable {before after store : Store} {filing? : Option Filing} {qualifier owner name : String}
  {id : TypeId}

/-! ## Registered schemas -/

def SchemasNamed (store : Store) : Prop :=
  ∀ name id, store.registry.schemas.get? name = some id →
    ∃ type, store.type? id = some type ∧ type.name.name = name

theorem Lasting.named (lasting : before.Lasting after)
    (named : ∃ type, before.type? id = some type ∧ type.name.name = name) :
    ∃ type, after.type? id = some type ∧ type.name.name = name := by
  rcases named with ⟨type, found, equal⟩
  rcases lasting.type? found with ⟨later, laterFound, names⟩
  exact ⟨later, laterFound, (congrArg TypeName.name names).trans equal⟩

theorem SchemasNamed.filed (filed : before.Filed filing? after) (named : before.SchemasNamed) :
    after.SchemasNamed := by
  intro name id registered
  refine filed.lasting.named ?_
  rcases filed.registered registered with ⟨type, _, _, found, same⟩ | ⟨old, _⟩
  · exact ⟨type, found, same⟩
  · exact named name id old

theorem schemasNamed_following (operations : List Operation) :
    (following operations).SchemasNamed :=
  (refiled_following operations).keeps SchemasNamed.filed nofun

/-! ## Owners declare what they own -/

def OwnersDeclare (store : Store) : Prop :=
  ∀ qualifier owner, store.registry.qualifiers.get? qualifier = some owner →
    qualifier ≠ "" ∧ store.declaredQualifier? owner = some qualifier

theorem declaredQualifier?_eq_some_iff (given : qualifier ≠ "") :
    store.declaredQualifier? owner = some qualifier ↔
      ∃ id complex, store.registry.schemas.get? owner = some id ∧
        store.complexAt? id = some complex ∧ complex.space.qualifier = qualifier := by
  unfold declaredQualifier?
  rw [Option.map_eq_some_iff]
  constructor
  · rintro ⟨id, registered, declared⟩
    unfold qualifierAt at declared
    cases found : store.complexAt? id with
    | none =>
        rw [found] at declared
        exact absurd declared.symm given
    | some complex =>
        rw [found] at declared
        exact ⟨id, complex, registered, found, declared⟩
  · rintro ⟨id, complex, registered, found, declared⟩
    exact ⟨id, registered, by rw [qualifierAt, found]; exact declared⟩

theorem Lasting.declaredQualifier? (lasting : before.Lasting after) (given : qualifier ≠ "")
    (same : after.registry.schemas.get? owner = before.registry.schemas.get? owner)
    (declared : before.declaredQualifier? owner = some qualifier) :
    after.declaredQualifier? owner = some qualifier := by
  rcases Option.map_eq_some_iff.mp declared with ⟨id, registered, declares⟩
  rw [Store.declaredQualifier?, same, registered, Option.map_some,
    lasting.qualifierAt declares given]

theorem OwnersDeclare.of_keepsQualifier (declare : before.OwnersDeclare)
    (kept : (before.registry.qualifiers.get? qualifier).filter
      (keepsQualifier [name] before.declaredQualifier? qualifier) = some owner) :
    before.registry.qualifiers.get? qualifier = some owner ∧ owner ≠ name := by
  rcases Option.filter_eq_some_iff.mp kept with ⟨owned, keeps⟩
  refine ⟨owned, fun same => ?_⟩
  have declared := (declare qualifier owner owned).2
  simp [keepsQualifier, same ▸ declared, same] at keeps

theorem keepsQualifier_of_ne {declared : String → Option String} (other : owner ≠ name) :
    keepsQualifier [name] declared qualifier owner = true := by
  simp [keepsQualifier, other]

theorem OwnersDeclare.filed (filed : before.Filed filing? after) (declare : before.OwnersDeclare) :
    after.OwnersDeclare := by
  intro qualifier owner owned
  have still := filed.lasting
  cases filed with
  | nothing _ registry_eq | type _ _ registry_eq | facet _ registry_eq =>
      rw [registry_eq] at owned
      rcases declare qualifier owner owned with ⟨given, declared⟩
      exact ⟨given, still.declaredQualifier? given (by rw [registry_eq]) declared⟩
  | @schema _ id type complex qualifiers found isComplex _ registry_eq owner_eq =>
      rw [registry_eq] at owned
      change qualifiers.get? qualifier = some owner at owned
      rw [owner_eq] at owned
      split at owned
      next claimed =>
        rcases claimed with ⟨given, rfl⟩
        cases owned
        have complexFound : before.complexAt? id = some complex := by
          rw [complexAt?, found]
          exact isComplex
        rcases still.complexAt? complexFound with ⟨later, laterFound, space⟩
        refine ⟨given, (declaredQualifier?_eq_some_iff given).mpr
          ⟨id, later, ?_, laterFound, by rw [space]⟩⟩
        rw [registry_eq]
        exact (Table.get?_put _ _ _ _).trans (if_pos rfl)
      next =>
        rcases declare.of_keepsQualifier owned with ⟨before, other⟩
        rcases declare qualifier owner before with ⟨given, declared⟩
        refine ⟨given, still.declaredQualifier? given ?_ declared⟩
        rw [registry_eq]
        exact (Table.get?_put _ _ _ _).trans (if_neg (Ne.symm other))
  | @removal _ schema home qualifiers _ registry_eq owner_eq =>
      rw [registry_eq] at owned
      change qualifiers.get? qualifier = some owner at owned
      rw [owner_eq] at owned
      rcases declare.of_keepsQualifier owned with ⟨before, other⟩
      rcases declare qualifier owner before with ⟨given, declared⟩
      refine ⟨given, still.declaredQualifier? given ?_ declared⟩
      rw [registry_eq]
      exact (Table.get?_erase _ _ _).trans (if_neg (Ne.symm other))
  | clearance _ registry_eq =>
      rw [registry_eq] at owned
      cases owned

theorem ownersDeclare_following (operations : List Operation) :
    (following operations).OwnersDeclare :=
  (refiled_following operations).keeps OwnersDeclare.filed nofun

/-- The table of qualifiers is sound: whatever was done to a registry, a qualifier is owned
by a registered schema that declares it, and so a schema owns one qualifier at most. What
is found by a qualifier is such a schema. -/
theorem qualifier_owner_declares (operations : List Operation) :
    let store := following operations
    (∀ qualifier owner, store.registry.qualifiers.get? qualifier = some owner →
      qualifier ≠ "" ∧ ∃ id complex, store.registry.schemas.get? owner = some id ∧
        store.complexAt? id = some complex ∧ complex.space.qualifier = qualifier) ∧
    (∀ qualifier id, store.registry.schemaByQualifier? qualifier = some id →
      ∃ owner complex, store.registry.schemas.get? owner = some id ∧
        store.complexAt? id = some complex ∧ complex.space.qualifier = qualifier) ∧
    ∀ owner qualifier other, store.registry.qualifiers.get? qualifier = some owner →
      store.registry.qualifiers.get? other = some owner → qualifier = other := by
  intro store
  have declare : store.OwnersDeclare := ownersDeclare_following operations
  have owners : ∀ qualifier owner, store.registry.qualifiers.get? qualifier = some owner →
      qualifier ≠ "" ∧ ∃ id complex, store.registry.schemas.get? owner = some id ∧
        store.complexAt? id = some complex ∧ complex.space.qualifier = qualifier := by
    intro qualifier owner owned
    rcases declare qualifier owner owned with ⟨given, declared⟩
    exact ⟨given, (declaredQualifier?_eq_some_iff given).mp declared⟩
  refine ⟨owners, ?_, ?_⟩
  · intro qualifier id found
    rcases Option.bind_eq_some_iff.mp found with ⟨owner, owned, registered⟩
    rcases owners qualifier owner owned with ⟨-, present, complex, presentFound, complexFound, is⟩
    cases registered.symm.trans presentFound
    exact ⟨owner, complex, registered, complexFound, is⟩
  · intro owner qualifier other owned otherOwned
    have declared := (declare qualifier owner owned).2
    exact Option.some.inj (declared.symm.trans (declare other owner otherOwned).2)

/-- A schema takes a qualifier over, and the one that had it comes back with another. -/
theorem qualifier_owner_after_takeover :
    let schema (name qualifier : String) : Blueprint := {
      name := ⟨name, name⟩
      body := .complex ⟨"", qualifier⟩ none [{ name := "title", valueType := .null }] }
    let operations : List Operation := [.build (schema "dc" "d"), .registerSchema ⟨8⟩,
      .build (schema "terms" "d"), .registerSchema ⟨9⟩,
      .build (schema "dc" "dc"), .registerSchema ⟨10⟩]
    let store := following operations
    store.registry.qualifiers.get? "dc" = some "dc" ∧
    store.registry.qualifiers.get? "d" = some "terms" ∧
    ∃ id complex, store.registry.schemas.get? "terms" = some id ∧
      store.complexAt? id = some complex ∧ complex.space.qualifier = "d" := by
  intro schema operations
  have own : (following operations).registry.qualifiers.get? "dc" = some "dc" := by decide +kernel
  have taken : (following operations).registry.qualifiers.get? "d" = some "terms" := by
    decide +kernel
  rcases qualifier_owner_declares operations with ⟨owners, -, -⟩
  exact ⟨own, taken, (owners "d" "terms" taken).2⟩

/-! ## Schemas registered with a qualifier -/

/-- The schemas that were registered with a qualifier in the course of a history, the last
one at the end. -/
def claimants (operations : List Operation) (qualifier : String) : List TypeId :=
  (filingsOf operations).filterMap (Filing.claimant? qualifier)

/-- What the owner of a qualifier has to do with the schemas that were registered with it:
only the last of these is an owner, and it is one as long as it is registered. -/
structure Claimed (store : Store) (qualifier : String) (claimants : List TypeId) : Prop where
  declares : ∀ id ∈ claimants, store.qualifierAt id = qualifier
  registered : ∀ name id, store.registry.schemas.get? name = some id →
    store.qualifierAt id = qualifier → id ∈ claimants
  last : ∀ owner, store.registry.qualifiers.get? qualifier = some owner →
    ∃ id, claimants.getLast? = some id ∧ store.registry.schemas.get? owner = some id
  owner : ∀ name id, claimants.getLast? = some id →
    store.registry.schemas.get? name = some id →
    store.registry.qualifiers.get? qualifier = some name

variable {claimants : List TypeId}

theorem Claimed.of_same (claimed : before.Claimed qualifier claimants)
    (given : qualifier ≠ "") (lasting : before.Lasting after) (named : before.SchemasNamed)
    (schemas : after.registry.schemas = before.registry.schemas)
    (qualifiers : after.registry.qualifiers = before.registry.qualifiers) :
    after.Claimed qualifier claimants where
  declares id member := lasting.qualifierAt (claimed.declares id member) given
  registered name id registered declares := by
    rw [schemas] at registered
    rcases named name id registered with ⟨type, found, -⟩
    exact claimed.registered name id registered ((lasting.qualifierAt_eq found).symm.trans declares)
  last owner owned := by
    rw [qualifiers] at owned
    rw [schemas]
    exact claimed.last owner owned
  owner name id last registered := by
    rw [schemas] at registered
    rw [qualifiers]
    exact claimed.owner name id last registered

/-- What was registered under a name gives way to nothing, or to a schema with another
qualifier, and gives up its own qualifier. -/
theorem Claimed.of_replaced (claimed : before.Claimed qualifier claimants) (name : String)
    (given : qualifier ≠ "") (lasting : before.Lasting after) (named : before.SchemasNamed)
    (declare : before.OwnersDeclare)
    (others : ∀ other, other ≠ name →
      after.registry.schemas.get? other = before.registry.schemas.get? other)
    (replaced : ∀ id, after.registry.schemas.get? name = some id →
      after.qualifierAt id ≠ qualifier)
    (owners : after.registry.qualifiers.get? qualifier =
      (before.registry.qualifiers.get? qualifier).filter
        (keepsQualifier [name] before.declaredQualifier? qualifier)) :
    after.Claimed qualifier claimants where
  declares id member := lasting.qualifierAt (claimed.declares id member) given
  registered other id registered declares := by
    have different : other ≠ name := fun same => replaced id (same ▸ registered) declares
    rw [others other different] at registered
    rcases named other id registered with ⟨type, found, -⟩
    exact claimed.registered other id registered
      ((lasting.qualifierAt_eq found).symm.trans declares)
  last owner owned := by
    rw [owners] at owned
    rcases declare.of_keepsQualifier owned with ⟨early, different⟩
    rw [others owner different]
    exact claimed.last owner early
  owner other id last registered := by
    have declares := lasting.qualifierAt (claimed.declares id (List.mem_of_getLast? last)) given
    have different : other ≠ name := fun same => replaced id (same ▸ registered) declares
    rw [others other different] at registered
    rw [owners, claimed.owner other id last registered]
    exact Option.filter_eq_some_iff.mpr ⟨rfl, keepsQualifier_of_ne different⟩

/-- A schema that is registered with the qualifier becomes the last one and its owner. -/
theorem Claimed.of_claim (claimed : before.Claimed qualifier claimants)
    (given : qualifier ≠ "") (lasting : before.Lasting after) (named : before.SchemasNamed)
    (laterNamed : after.SchemasNamed) {type : DocumentType} (found : before.type? id = some type)
    (declares : after.qualifierAt id = qualifier)
    (schemas : after.registry.schemas = before.registry.schemas.put type.name.name id)
    (owned : after.registry.qualifiers.get? qualifier = some type.name.name) :
    after.Claimed qualifier (claimants ++ [id]) where
  declares other member := by
    rcases List.mem_append.mp member with old | new
    · exact lasting.qualifierAt (claimed.declares other old) given
    · exact List.mem_singleton.mp new ▸ declares
  registered other present registered declared := by
    rw [schemas] at registered
    rcases Table.of_get?_put registered with ⟨-, rfl⟩ | old
    · exact List.mem_append_right _ (List.mem_singleton_self _)
    · rcases named other present old with ⟨presentType, presentFound, -⟩
      exact List.mem_append_left _ (claimed.registered other present old
        ((lasting.qualifierAt_eq presentFound).symm.trans declared))
  last owner ownedBy := by
    cases owned.symm.trans ownedBy
    refine ⟨id, List.getLast?_concat, ?_⟩
    rw [schemas, Table.get?_put, if_pos rfl]
  owner other present last registered := by
    cases List.getLast?_concat.symm.trans last
    rcases laterNamed other id registered with ⟨later, laterFound, rfl⟩
    rcases lasting.named ⟨type, found, rfl⟩ with ⟨same, sameFound, name⟩
    cases laterFound.symm.trans sameFound
    rw [name]
    exact owned

theorem Claimed.filed (filed : before.Filed filing? after) (given : qualifier ≠ "")
    (named : before.SchemasNamed) (declare : before.OwnersDeclare)
    (claimed : before.Claimed qualifier claimants) :
    after.Claimed qualifier
      (claimants ++ (filing?.bind (Filing.claimant? qualifier)).toList) := by
  have lasting := filed.lasting
  have laterNamed := named.filed filed
  cases filed with
  | nothing _ registry_eq | type _ _ registry_eq | facet _ registry_eq =>
      change after.Claimed qualifier (claimants ++ [])
      rw [List.append_nil]
      exact claimed.of_same given lasting named (by rw [registry_eq]) (by rw [registry_eq])
  | @schema _ id type complex qualifiers found isComplex _ registry_eq owner_eq =>
      have declares : after.qualifierAt id = complex.space.qualifier := by
        rw [lasting.qualifierAt_eq found, qualifierAt, complexAt?, found, Option.bind_some,
          isComplex]
        rfl
      have owner := owner_eq qualifier
      by_cases same : complex.space.qualifier = qualifier
      · rw [Option.bind_some, Filing.claimant?, if_pos same]
        rw [if_pos ⟨same ▸ given, same⟩] at owner
        exact claimed.of_claim given lasting named laterNamed found (declares.trans same)
          (by rw [registry_eq]) (by rw [registry_eq]; exact owner)
      · rw [Option.bind_some, Filing.claimant?, if_neg same, Option.toList_none, List.append_nil]
        rw [if_neg fun both => same both.2] at owner
        refine claimed.of_replaced type.name.name given lasting named declare ?_ ?_
          (by rw [registry_eq]; exact owner)
        · intro other different
          rw [registry_eq]
          exact (Table.get?_put _ _ _ _).trans (if_neg (Ne.symm different))
        · intro present registered
          rw [registry_eq] at registered
          cases registered.symm.trans ((Table.get?_put _ _ _ _).trans (if_pos rfl))
          exact declares ▸ same
  | @removal _ schema home qualifiers _ registry_eq owner_eq =>
      change after.Claimed qualifier (claimants ++ [])
      rw [List.append_nil]
      have schemas : ∀ name, after.registry.schemas.get? name =
          if schema = name then none else before.registry.schemas.get? name := fun name => by
        rw [registry_eq]
        exact Table.get?_erase _ _ _
      refine claimed.of_replaced schema given lasting named declare ?_ ?_
        (by rw [registry_eq]; exact owner_eq qualifier)
      · exact fun other different => (schemas other).trans (if_neg (Ne.symm different))
      · intro id registered
        rw [schemas, if_pos rfl] at registered
        cases registered
  | clearance _ registry_eq =>
      change after.Claimed qualifier (claimants ++ [])
      rw [List.append_nil]
      refine ⟨fun id member => lasting.qualifierAt (claimed.declares id member) given, ?_, ?_, ?_⟩
        <;> rw [registry_eq]
      · rintro name id ⟨⟩
      · rintro owner ⟨⟩
      · rintro name id _ ⟨⟩

theorem claimed_initial (qualifier : String) : Store.initial.Claimed qualifier [] where
  declares := nofun
  registered name id registered _ := by
    have none : Store.initial.registry.schemas.values = [] := by decide +kernel
    exact none ▸ Table.mem_values_iff.mpr ⟨name, registered⟩
  last owner owned := by
    have none : Store.initial.registry.qualifiers.values = [] := by decide +kernel
    exact absurd (Table.mem_values_iff.mpr ⟨qualifier, owned⟩) (none ▸ List.not_mem_nil)
  owner := nofun

theorem claimed_following {operations : List Operation}
    (single : ∀ operation ∈ operations, operation.filesOnce = true) (given : qualifier ≠ "") :
    (following operations).Claimed qualifier (Store.claimants operations qualifier) := by
  have traced := @traced_following
    (fun store filings => store.SchemasNamed ∧ store.OwnersDeclare ∧
      store.Claimed qualifier (filings.filterMap (Filing.claimant? qualifier)))
    ⟨schemasNamed_following [], ownersDeclare_following [], claimed_initial qualifier⟩
    (by
      rintro before after filing? filings filed ⟨named, declare, claimed⟩
      refine ⟨named.filed filed, declare.filed filed, ?_⟩
      rw [filterMap_append_toList]
      exact claimed.filed filed given named declare)
    operations single
  exact traced.2.2

/-- Where a registered schema declares a qualifier, the schema that was registered last with
this qualifier declares it as well. That one is found by the qualifier, as long as it is
registered itself. When it is not any more, nothing is found. -/
theorem declared_qualifier_found (operations : List Operation)
    (single : ∀ operation ∈ operations, operation.filesOnce = true)
    (qualifier : String) (given : qualifier ≠ "") (name : String) (id : TypeId)
    (registered : (following operations).registry.schemas.get? name = some id)
    (declares : (following operations).qualifierAt id = qualifier) :
    let store := following operations
    ∃ last, (Store.claimants operations qualifier).getLast? = some last ∧
      store.qualifierAt last = qualifier ∧
      ((∃ home, store.registry.schemas.get? home = some last) →
        store.registry.schemaByQualifier? qualifier = some last) ∧
      ((¬∃ home, store.registry.schemas.get? home = some last) →
        store.registry.schemaByQualifier? qualifier = none) := by
  intro store
  have claimed : store.Claimed qualifier (Store.claimants operations qualifier) :=
    claimed_following single given
  have member := claimed.registered name id registered declares
  obtain ⟨last, isLast⟩ := Option.ne_none_iff_exists'.mp
    (mt List.getLast?_eq_none_iff.mp (List.ne_nil_of_mem member))
  refine ⟨last, isLast, claimed.declares last (List.mem_of_getLast? isLast), ?_, ?_⟩
  · rintro ⟨home, present⟩
    rw [Registry.schemaByQualifier?, claimed.owner home last isLast present]
    exact present
  · intro absent
    rw [Registry.schemaByQualifier?]
    cases owned : store.registry.qualifiers.get? qualifier with
    | none => rfl
    | some owner =>
        rcases claimed.last owner owned with ⟨same, sameLast, present⟩
        cases isLast.symm.trans sameLast
        exact absurd ⟨owner, present⟩ absent

/-- Two schemas declare the qualifier, and the second one is found by it. -/
theorem declared_qualifier_found_on_second :
    let schema (name : String) : Blueprint := {
      name := ⟨name, name⟩
      body := .complex ⟨"", "d"⟩ none [{ name := "title", valueType := .null }] }
    let operations : List Operation := [.build (schema "dc"), .registerSchema ⟨8⟩,
      .build (schema "terms"), .registerSchema ⟨9⟩]
    let store := following operations
    store.registry.schemas.get? "dc" = some ⟨8⟩ ∧ store.qualifierAt ⟨8⟩ = "d" ∧
    store.registry.schemaByQualifier? "d" = some ⟨9⟩ := by
  intro schema operations
  have registered : (following operations).registry.schemas.get? "dc" = some ⟨8⟩ := by
    decide +kernel
  have declares : (following operations).qualifierAt ⟨8⟩ = "d" := by decide +kernel
  have claims : Store.claimants operations "d" = [⟨8⟩, ⟨9⟩] := by decide +kernel
  have single : ∀ operation ∈ operations, operation.filesOnce = true := List.all_eq_true.mp rfl
  rcases declared_qualifier_found operations single "d" (by decide) "dc" ⟨8⟩ registered declares
    with ⟨last, isLast, -, found, -⟩
  rw [claims] at isLast
  cases isLast
  exact ⟨registered, declares, found ⟨"terms", by decide +kernel⟩⟩

/-- When the second one is removed, the first is found by its name only. -/
theorem qualifier_lost_with_owner :
    let schema (name : String) : Blueprint := {
      name := ⟨name, name⟩
      body := .complex ⟨"", "d"⟩ none [{ name := "title", valueType := .null }] }
    let store := following [.build (schema "dc"), .registerSchema ⟨8⟩,
      .build (schema "terms"), .registerSchema ⟨9⟩, .unregisterSchema "terms"]
    store.registry.schemas.get? "dc" = some ⟨8⟩ ∧ store.qualifierAt ⟨8⟩ = "d" ∧
    store.registry.schemaByQualifier? "d" = none ∧
    ((Action.registeredField "d:title").run store).1 = none ∧
    ((Action.registeredField "dc:title").run store).1.map Field.owner = some ⟨8⟩ := by
  decide +kernel

end Store
end DocumentTypes
