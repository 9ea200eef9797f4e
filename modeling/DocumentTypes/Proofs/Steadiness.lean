import DocumentTypes.Proofs.Consultation
import DocumentTypes.Proofs.Life
import DocumentTypes.Store.Instance

/-! # Steadiness

Consulting types settles more than it changes. What a lookup answered is remembered, a
merger that is up to date is not made again, primitives are found only where they were found
before, and references come to mean nothing new, because no type comes back to life. -/

namespace DocumentTypes

namespace Store

variable {start store before middle after : Store} {id primitive other : TypeId}
  {trail : List TypeId}

/-! ## The relation -/

/-- The field that a complex type remembers under a name. -/
def lookedUp? (store : Store) (id : TypeId) (name : String) : Option Field :=
  (store.complexAt? id).bind fun complex => complex.lookups.get? name

/-- A store after types have been consulted. -/
structure Steady (before after : Store) : Prop where
  consulted : before.Consulted after
  loosened : before.Loosened after
  lookedUp : ∀ id name field, before.lookedUp? id name = some field →
    after.lookedUp? id name = some field
  current : ∀ id composite, before.compositeAt? id = some composite →
    composite.isCurrent = true → after.compositeAt? id = some composite
  finds : ∀ id primitive, after.remembered? id = some primitive →
    ∃ trail, before.Finds id trail primitive

namespace Steady

theorem refl (store : Store) : Steady store store where
  consulted := .refl store
  loosened := .refl store
  lookedUp _ _ _ found := found
  current _ _ found _ := found
  finds _ _ known := ⟨[], .remembered known⟩

theorem sameDeclared (steady : before.Steady after) : before.SameDeclared after :=
  steady.consulted.sameDeclared

theorem resolve (steady : before.Steady after) {reference : TypeRef}
    (found : after.resolve reference = some id) : before.resolve reference = some id := by
  cases reference with
  | null | direct | named | schema =>
      rw [← steady.sameDeclared.resolve rfl]
      exact found
  | owner type target =>
      unfold Store.resolve at found ⊢
      dsimp only at found ⊢
      split at found
      next alive =>
        rw [if_pos (steady.loosened.isAlive alive)]
        exact found
      next => cases found

theorem base? (steady : before.Steady after) (found : after.base? id = some other) :
    before.base? id = some other := by
  rcases Option.bind_eq_some_iff.mp found with ⟨type, typeFound, base⟩
  rcases steady.sameDeclared.symm.type? typeFound with ⟨earlier, earlierFound, equal, -⟩
  rw [Store.base?, earlierFound, Option.bind_some, equal]
  exact steady.resolve base

theorem of_finds (steady : before.Steady after) (finds : after.Finds id trail primitive) :
    ∃ trail, before.Finds id trail primitive := by
  induction finds with
  | primitive found => exact ⟨[], .primitive (steady.sameDeclared.symm.primitiveAt? found)⟩
  | remembered known => exact steady.finds _ _ known
  | @searched id base primitive simple trail found unknown base_eq _ induction =>
      rcases induction with ⟨earlierTrail, rest⟩
      rcases steady.sameDeclared.symm.simpleAt? found with ⟨earlier, earlierFound⟩
      have earlierUnknown : earlier.primitive = none := by
        by_contra known
        rcases Option.ne_none_iff_exists'.mp known with ⟨other, known⟩
        have remembered : before.remembered? id = some other := by
          rw [remembered?_eq_bind, earlierFound]
          exact known
        have later := steady.consulted.remembered? remembered
        rw [remembered?_eq_bind, found, Option.bind_some, unknown] at later
        cases later
      exact ⟨_, .searched earlierFound earlierUnknown (steady.base? base_eq) rest⟩

theorem trans {first second third : Store} (earlier : first.Steady second)
    (later : second.Steady third) : first.Steady third where
  consulted := earlier.consulted.trans later.consulted
  loosened := earlier.loosened.trans later.loosened
  lookedUp id name field found := later.lookedUp id name field (earlier.lookedUp id name field found)
  current id composite found isCurrent :=
    later.current id composite (earlier.current id composite found isCurrent) isCurrent
  finds id primitive known := by
    rcases later.finds id primitive known with ⟨trail, finds⟩
    exact earlier.of_finds finds

end Steady

/-! ## Single steps -/

theorem Loosened.setKind {kind : TypeKind} (loosened : start.Loosened middle)
    (held : ∀ type, middle.type? id = some type →
      ∀ other ∈ ({ type with kind } : DocumentType).held, start.Sustains id other) :
    start.Loosened (middle.setKind id kind) where
  roots_eq := by
    rw [roots, registry_setKind, holdings_setKind]
    exact loosened.roots_eq
  size_eq := size_setKind.trans loosened.size_eq
  sustains holder other holds := by
    rcases holdsType_iff.mp holds with ⟨type, found, member⟩
    rw [type?_setKind] at found
    split at found
    next same =>
      rcases Option.map_eq_some_iff.mp found with ⟨earlier, earlierFound, rfl⟩
      exact same ▸ held earlier earlierFound other member
    next => exact loosened.sustains holder other (holdsType_iff.mpr ⟨type, found, member⟩)

theorem Loosened.held (loosened : start.Loosened middle) {type : DocumentType}
    (found : middle.type? id = some type) (member : other ∈ type.held) :
    start.Sustains id other :=
  loosened.sustains id other (holdsType_iff.mpr ⟨type, found, member⟩)

theorem Steady.noted (store : Store) (notice : Notice) : store.Steady (store.note notice) where
  consulted := .observed (.noted store notice)
  loosened := ⟨rfl, rfl, fun _ _ holds => .held holds⟩
  lookedUp _ _ _ found := found
  current _ _ found _ := found
  finds _ _ known := ⟨[], .remembered known⟩

theorem Steady.looked {complex : ComplexType} (found : store.complexAt? id = some complex)
    (name : String) : store.Steady (store.setKind id (.complex (complex.lookUp name).1)) where
  consulted := .observed (.looked found name)
  loosened := by
    refine (Loosened.refl store).setKind fun type typeFound other member => ?_
    rcases type_of_complexAt? found with ⟨same, sameFound, kind⟩
    cases typeFound.symm.trans sameFound
    rcases complex.lookUp_fst name with ⟨lookups, equal⟩
    refine (Loosened.refl store).held typeFound ?_
    rw [equal] at member
    rw [DocumentType.held, kind]
    exact member
  lookedUp other key field known := by
    unfold lookedUp? at known ⊢
    rw [complexAt?_setKind_complex found]
    split
    next same =>
      rw [same, found, Option.bind_some] at known
      rw [Option.bind_some, ComplexType.lookUp]
      split
      · exact known
      next absent =>
        split
        · rw [Table.get?_put, if_neg]
          · exact known
          · rintro rfl
            rw [absent] at known
            cases known
        · exact known
    next => exact known
  current other composite present _ := by rwa [compositeAt?_setKind_complex found]
  finds other primitive known := by
    rw [(Observed.looked found name).lasting.remembered?_eq] at known
    exact ⟨[], .remembered known⟩

theorem Finds.sustains (finds : store.Finds id trail primitive) :
    trail = [] ∧ primitive = id ∨ store.Sustains id primitive := by
  induction finds with
  | primitive => exact .inl ⟨rfl, rfl⟩
  | @remembered id primitive known =>
      rw [remembered?_eq_bind] at known
      rcases Option.bind_eq_some_iff.mp known with ⟨simple, found, remembers⟩
      rcases kind_of_simpleAt? found with ⟨type, typeFound, kind⟩
      refine .inr ((Loosened.refl store).held typeFound ?_)
      simp [DocumentType.held, kind, remembers]
  | @searched id base primitive simple trail found _ base_eq _ induction =>
      rcases Option.bind_eq_some_iff.mp base_eq with ⟨type, typeFound, resolved⟩
      have toBase : store.Sustains id base := .of_resolve resolved fun other member =>
        (Loosened.refl store).held typeFound (List.mem_append_left _ member)
      rcases induction with ⟨-, rfl⟩ | beyond
      · exact .inr toBase
      · exact .inr (toBase.trans beyond)

theorem Finds.loosened (finds : store.Finds id trail primitive) :
    store.Loosened (store.rememberAll trail primitive) := by
  induction finds with
  | primitive | remembered => exact .refl store
  | @searched id base primitive simple trail found unknown base_eq rest induction =>
      change store.Loosened ((store.rememberAll trail primitive).remember id primitive)
      unfold remember
      split
      next later laterFound =>
        refine induction.setKind fun type typeFound other member => ?_
        rcases List.mem_append.mp member with inBase | inKind
        · exact induction.held typeFound (List.mem_append_left _ inBase)
        · cases List.mem_singleton.mp inKind
          have searched : store.Finds id (id :: trail) primitive :=
            .searched found unknown base_eq rest
          exact searched.sustains.resolve_left fun empty => nomatch empty.1
      next => exact induction

theorem bind_kind_rememberAll {α : Type} {part : TypeKind → Option α}
    (other : ∀ simple, part (.simple simple) = none) (store : Store) (trail : List TypeId)
    (primitive id : TypeId) :
    (((store.rememberAll trail primitive).type? id).map DocumentType.kind).bind part =
      ((store.type? id).map DocumentType.kind).bind part := by
  induction trail with
  | nil => rfl
  | cons first trail induction =>
      rw [← induction]
      change (((store.rememberAll trail primitive).remember first primitive |>.type? id).map
        DocumentType.kind).bind part = _
      unfold remember
      split
      next simple found =>
        rcases kind_of_simpleAt? found with ⟨type, typeFound, kind⟩
        rw [type?_setKind]
        split
        next same =>
          rw [same, typeFound, Option.map_some, Option.map_some, Option.map_some, Option.bind_some,
            Option.bind_some, other, kind, other]
        next => rfl
      next => rfl

theorem complexAt?_rememberAll (store : Store) (trail : List TypeId) (primitive id : TypeId) :
    (store.rememberAll trail primitive).complexAt? id = store.complexAt? id := by
  rw [complexAt?_eq, bind_kind_rememberAll fun _ => rfl, ← complexAt?_eq]

theorem compositeAt?_rememberAll (store : Store) (trail : List TypeId) (primitive id : TypeId) :
    (store.rememberAll trail primitive).compositeAt? id = store.compositeAt? id := by
  rw [compositeAt?_eq, bind_kind_rememberAll fun _ => rfl, ← compositeAt?_eq]

theorem Steady.recalled (finds : store.Finds id trail primitive) :
    store.Steady (store.rememberAll trail primitive) where
  consulted := .recalled finds
  loosened := finds.loosened
  lookedUp other name field known := by
    rwa [lookedUp?, complexAt?_rememberAll]
  current other composite found _ := by
    rwa [compositeAt?_rememberAll]
  finds other answer known := by
    rw [finds.remembered?_rememberAll] at known
    split at known
    next member =>
      cases known
      rcases finds.of_mem member with ⟨rest, _, otherFinds, -⟩
      exact ⟨rest, otherFinds⟩
    next => exact ⟨[], .remembered known⟩

theorem Steady.setComposite {composite shown : CompositeType} (steady : start.Steady middle)
    (found : start.compositeAt? id = some composite) (outdated : composite.isCurrent = false)
    (references : shown.references = composite.references)
    (sustained : ∀ other ∈ shown.merged.held, start.Sustains id other)
    (consulted : start.Consulted (middle.setKind id (.composite shown))) :
    start.Steady (middle.setKind id (.composite shown)) := by
  rcases steady.sameDeclared.compositeAt? found with ⟨merged, middleFound⟩
  rcases type_of_compositeAt? middleFound with ⟨type, typeFound, kind⟩
  refine ⟨consulted, ?_, fun other name field known => ?_, fun other present presentFound now => ?_,
    fun other primitive known => ?_⟩
  · refine steady.loosened.setKind fun same sameFound other member => ?_
    cases typeFound.symm.trans sameFound
    dsimp only [DocumentType.held] at member
    rw [references] at member
    rcases List.mem_append.mp member with inBase | inKind
    · exact steady.loosened.held typeFound (List.mem_append_left _ inBase)
    · rcases List.mem_append.mp inKind with inReferences | inSnapshot
      · refine steady.loosened.held typeFound ?_
        rw [DocumentType.held, kind]
        exact List.mem_append_right _ (List.mem_append_left _ inReferences)
      · exact sustained other inSnapshot
  · rw [lookedUp?, complexAt?_setKind_composite middleFound]
    exact steady.lookedUp other name field known
  · rw [compositeAt?_setKind_composite middleFound, if_neg]
    · exact steady.current other present presentFound now
    · rintro rfl
      cases found.symm.trans presentFound
      rw [outdated] at now
      cases now
  · have same : (middle.setKind id (.composite shown)).remembered? other =
        middle.remembered? other := by
      rw [remembered?, remembered?, type?_setKind]
      split
      next equal =>
        rw [equal, typeFound, Option.map_some, Option.bind_some, Option.bind_some]
        rcases type with ⟨name, base, flags, _⟩
        cases kind
        rfl
      next => rfl
    exact steady.finds other primitive (same ▸ known)

end Store

/-! ## Actions -/

namespace Action

open Store (Steady)

variable {α β : Type} {start middle store later : Store} {id : TypeId}

def Steadies (action : Action α) : Prop := ∀ start : Store, Preserves start.Steady action

namespace Steadies

theorem of_run {action : Action α} (each : ∀ store : Store, store.Steady (action.run store).2) :
    Steadies action := fun _ store steady => steady.trans (each store)

theorem run {action : Action α} (steadies : Steadies action) (store : Store) :
    store.Steady (action.run store).2 := steadies store store (.refl store)

theorem pure (answer : α) : Steadies (pure answer : Action α) := fun _ => .pure answer

theorem bind {action : Action α} {next : α → Action β} (first : Steadies action)
    (second : ∀ answer, Steadies (next answer)) : Steadies (action >>= next) :=
  fun start => .bind (first start) fun answer => second answer start

theorem mapM {action : α → Action β} (each : ∀ value, Steadies (action value))
    (values : List α) : Steadies (values.mapM action) :=
  fun start => .mapM values fun value => each value start

end Steadies

theorem steadies_note (notice : Notice) : Steadies (note notice) :=
  .of_run fun store => .noted store notice

/-! ## Mergers -/

/-- Nothing settled is lost to an action that shows fields, and all types of the fields are
sustained by the type that shows them. -/
def ShowsFields (fields : TypeId → Action (List Field)) : Prop :=
  ∀ (id : TypeId) (store : Store), store.Steady ((fields id).run store).2 ∧
    ∀ field ∈ ((fields id).run store).1, ∀ other ∈ field.held, store.Sustains id other

variable {fields : TypeId → Action (List Field)}

theorem steady_mergeSchema (shows : ShowsFields fields) (steady : start.Steady middle)
    {entry : String × TypeRef} (holds : ∀ other ∈ entry.2.held, start.Sustains id other)
    {snapshot : Snapshot} (within : ∀ other ∈ snapshot.held, start.Sustains id other) :
    start.Steady ((mergeSchema fields snapshot entry).run middle).2 ∧
      ∀ other ∈ ((mergeSchema fields snapshot entry).run middle).1.held,
        start.Sustains id other := by
  simp only [mergeSchema, run_bind, run_resolve]
  cases found : middle.resolve entry.2 with
  | none => exact ⟨steady.trans (.noted middle _), within⟩
  | some schema =>
      have toSchema : start.Sustains id schema := .of_resolve (steady.resolve found) holds
      rcases shows schema middle with ⟨shown, sustained⟩
      refine ⟨steady.trans shown, fun other member => ?_⟩
      simp only [run_bind, run_type?, run_pure, Snapshot.addSchema, Snapshot.held,
        List.flatMap_append, List.mem_append, List.mem_singleton] at member
      rcases member with (inSchemas | rfl) | (inFields | inNew)
      · exact within other (List.mem_append_left _ inSchemas)
      · exact toSchema
      · exact within other (List.mem_append_right _ inFields)
      · rcases List.mem_flatMap.mp inNew with ⟨field, fieldMember, held⟩
        exact toSchema.trans (steady.loosened.of_sustains (sustained field fieldMember other held))

/-- The induction is on the references still to be merged. -/
theorem steady_foldlM_mergeSchema (shows : ShowsFields fields)
    (entries : List (String × TypeRef))
    (holds : ∀ entry ∈ entries, ∀ other ∈ entry.2.held, start.Sustains id other)
    (steady : start.Steady middle) (snapshot : Snapshot)
    (within : ∀ other ∈ snapshot.held, start.Sustains id other) :
    start.Steady ((entries.foldlM (mergeSchema fields) snapshot).run middle).2 ∧
      ∀ other ∈ ((entries.foldlM (mergeSchema fields) snapshot).run middle).1.held,
        start.Sustains id other := by
  induction entries generalizing middle snapshot with
  | nil => exact ⟨steady, within⟩
  | cons entry rest induction =>
      rw [List.foldlM_cons, run_bind]
      rcases steady_mergeSchema shows steady (holds entry List.mem_cons_self) within with
        ⟨steadyNext, withinNext⟩
      exact induction (fun other member => holds other (List.mem_cons_of_mem _ member))
        steadyNext _ withinNext

/-- What an outdated composite comes to show, it sustained already. -/
theorem steady_merge {depth : Nat} (shows : ShowsFields (fieldsWithin depth))
    {composite : CompositeType} (found : store.compositeAt? id = some composite)
    (outdated : composite.isCurrent = false) :
    store.Steady ((merge (fieldsWithin depth) id composite).run store).2 ∧
      ∀ other ∈ ((merge (fieldsWithin depth) id composite).run store).1.held,
        store.Sustains id other := by
  rcases Store.type_of_compositeAt? found with ⟨type, typeFound, kind⟩
  have holds : ∀ entry ∈ composite.references.entries, ∀ other ∈ entry.2.held,
      store.Sustains id other := by
    intro entry member other held
    refine (Store.Loosened.refl store).held typeFound ?_
    rw [DocumentType.held, kind]
    refine List.mem_append_right _ (List.mem_append_left _ (List.mem_flatMap.mpr ⟨entry.2, ?_, held⟩))
    exact List.mem_map_of_mem member
  have consulted := Store.Consulted.observed
    (observed_merge (observes_fieldsWithin depth) found)
  rcases steady_foldlM_mergeSchema shows composite.references.entries holds (.refl store)
    { Snapshot.empty with
      generation := composite.merged.generation + 1
      revision := composite.requested } (fun _ none => nomatch none) with ⟨steady, sustained⟩
  exact ⟨(steady.trans (.noted _ _)).setComposite found outdated rfl sustained consulted, sustained⟩

theorem sustains_fields {complex : ComplexType} (found : store.complexAt? id = some complex)
    {field : Field} (member : field ∈ complex.fields.values) {other : TypeId}
    (held : other ∈ field.held) : store.Sustains id other := by
  rcases Store.type_of_complexAt? found with ⟨type, typeFound, kind⟩
  refine (Store.Loosened.refl store).held typeFound ?_
  rw [DocumentType.held, kind]
  exact List.mem_append_right _ (List.mem_flatMap.mpr ⟨field, member, held⟩)

theorem sustains_merged {composite : CompositeType}
    (found : store.compositeAt? id = some composite) {other : TypeId}
    (held : other ∈ composite.merged.held) : store.Sustains id other := by
  rcases Store.type_of_compositeAt? found with ⟨type, typeFound, kind⟩
  refine (Store.Loosened.refl store).held typeFound ?_
  rw [DocumentType.held, kind]
  exact List.mem_append_right _ (List.mem_append_right _ held)

theorem Snapshot.mem_held_of_field {snapshot : Snapshot} {field : Field}
    (member : field ∈ snapshot.fields) {other : TypeId} (held : other ∈ field.held) :
    other ∈ snapshot.held :=
  List.mem_append_right _ (List.mem_flatMap.mpr ⟨field, member, held⟩)

theorem run_fieldsWithin_current {composite : CompositeType}
    (found : store.compositeAt? id = some composite) (now : composite.isCurrent = true)
    (depth : Nat) : (fieldsWithin depth id).run store = (composite.merged.fields, store) := by
  have kind := Store.kind_of_compositeAt? found
  unfold fieldsWithin
  simp only [run_bind, run_type?, kind, now, if_true]
  rfl

theorem run_fieldsWithin_zero {composite : CompositeType}
    (found : store.compositeAt? id = some composite) (outdated : composite.isCurrent = false) :
    (fieldsWithin 0 id).run store = ([], store.note .endless) := by
  have kind := Store.kind_of_compositeAt? found
  unfold fieldsWithin
  simp only [run_bind, run_type?, kind, outdated, Bool.false_eq_true, if_false]
  rfl

theorem run_fieldsWithin_succ {composite : CompositeType}
    (found : store.compositeAt? id = some composite) (outdated : composite.isCurrent = false)
    (depth : Nat) : (fieldsWithin (depth + 1) id).run store =
      (((merge (fieldsWithin depth) id composite).run store).1.fields,
        ((merge (fieldsWithin depth) id composite).run store).2) := by
  have kind := Store.kind_of_compositeAt? found
  -- The depth is not to be unfolded any further.
  rw [fieldsWithin]
  simp only [run_bind, run_type?, kind, outdated, Bool.false_eq_true, if_false]
  rfl

theorem run_fieldsWithin_other (notComplex : store.complexAt? id = none)
    (notComposite : store.compositeAt? id = none) (depth : Nat) :
    (fieldsWithin depth id).run store = ([], store) := by
  unfold fieldsWithin
  simp only [run_bind, run_type?]
  split
  next complex kind => cases notComplex.symm.trans (Store.complexAt?_of_kind kind)
  next composite kind => cases notComposite.symm.trans (Store.compositeAt?_of_kind kind)
  next => rfl

/-- Fields are read off, unless a composite is outdated. Then it is merged if the depth allows. -/
theorem run_fieldsWithin (depth : Nat) (id : TypeId) (store : Store) :
    (∃ complex, store.complexAt? id = some complex ∧
      (fieldsWithin depth id).run store = (complex.fields.values, store)) ∨
    (∃ composite, store.compositeAt? id = some composite ∧ composite.isCurrent = true ∧
      (fieldsWithin depth id).run store = (composite.merged.fields, store)) ∨
    (∃ composite less, store.compositeAt? id = some composite ∧ composite.isCurrent = false ∧
      depth = less + 1 ∧ (fieldsWithin depth id).run store =
        (((merge (fieldsWithin less) id composite).run store).1.fields,
          ((merge (fieldsWithin less) id composite).run store).2)) ∨
    (∃ composite, store.compositeAt? id = some composite ∧ composite.isCurrent = false ∧
      depth = 0 ∧ (fieldsWithin depth id).run store = ([], store.note .endless)) ∨
    (fieldsWithin depth id).run store = ([], store) := by
  cases complexFound : store.complexAt? id with
  | some complex =>
      refine .inl ⟨complex, rfl, ?_⟩
      rw [run_fieldsWithin_complex complexFound, Store.fieldsAt, complexFound]
      rfl
  | none =>
      cases found : store.compositeAt? id with
      | none => exact .inr (.inr (.inr (.inr (run_fieldsWithin_other complexFound found depth))))
      | some composite =>
          cases now : composite.isCurrent with
          | true => exact .inr (.inl ⟨composite, rfl, now, run_fieldsWithin_current found now depth⟩)
          | false =>
              cases depth with
              | zero =>
                  exact .inr (.inr (.inr (.inl ⟨composite, rfl, now, rfl,
                    run_fieldsWithin_zero found now⟩)))
              | succ less =>
                  exact .inr (.inr (.inl ⟨composite, less, rfl, now, rfl,
                    run_fieldsWithin_succ found now less⟩))

theorem showsFields_fieldsWithin (depth : Nat) : ShowsFields (fieldsWithin depth) := by
  induction depth using Nat.strongRecOn with
  | _ depth induction =>
      intro id store
      rcases run_fieldsWithin depth id store with ⟨complex, found, run⟩ |
        ⟨composite, found, -, run⟩ | ⟨composite, less, found, outdated, rfl, run⟩ |
        ⟨_, _, _, _, run⟩ | run
      all_goals rw [run]
      · exact ⟨.refl store, fun field member other held => sustains_fields found member held⟩
      · exact ⟨.refl store, fun field member other held =>
          sustains_merged found (Snapshot.mem_held_of_field member held)⟩
      · rcases steady_merge (induction less (Nat.lt_succ_self less)) found outdated with
          ⟨steady, sustained⟩
        exact ⟨steady, fun field member other held =>
          sustained other (Snapshot.mem_held_of_field member held)⟩
      · exact ⟨.noted store _, fun _ none => nomatch none⟩
      · exact ⟨.refl store, fun _ none => nomatch none⟩

theorem steadies_fieldsWithin (depth : Nat) (id : TypeId) : Steadies (fieldsWithin depth id) :=
  .of_run fun store => (showsFields_fieldsWithin depth id store).1

theorem steadies_snapshotOf (id : TypeId) : Steadies (snapshotOf id) := by
  refine .of_run fun store => ?_
  simp only [snapshotOf, run_bind, run_type?]
  split
  · exact .refl store
  next composite found =>
    split
    · exact .refl store
    next outdated =>
      rw [run_bind, run_get]
      exact (steady_merge (showsFields_fieldsWithin _) found (eq_false_of_ne_true outdated)).1

/-! ## Composites that have been read -/

theorem compositeAt?_merge {composite : CompositeType}
    (found : store.compositeAt? id = some composite) (depth : Nat) :
    ((merge (fieldsWithin depth) id composite).run store).2.compositeAt? id =
      some { composite with merged := ((merge (fieldsWithin depth) id composite).run store).1 } ∧
    ((merge (fieldsWithin depth) id composite).run store).1.revision = composite.requested ∧
    ((merge (fieldsWithin depth) id composite).run store).1.generation =
      composite.merged.generation + 1 := by
  let opening : Snapshot := { Snapshot.empty with
    generation := composite.merged.generation + 1
    revision := composite.requested }
  have looked := Observes.foldlM (observes_mergeSchema (observes_fieldsWithin depth))
    composite.references.entries opening store
  have revision := foldlM_mergeSchema_revision (fieldsWithin depth)
    composite.references.entries opening store
  have generation := foldlM_mergeSchema_part Snapshot.generation (fun _ _ _ _ => rfl)
    (fieldsWithin depth) composite.references.entries opening store
  rcases folded : (composite.references.entries.foldlM (mergeSchema (fieldsWithin depth))
    opening).run store with ⟨snapshot, middle⟩
  rw [folded] at looked revision generation
  rcases looked.sameDeclared.compositeAt? found with ⟨merged, stillFound⟩
  have result : (merge (fieldsWithin depth) id composite).run store =
      (snapshot, (middle.note (.merged snapshot.schemas.length snapshot.fields.length
        snapshot.generation)).setKind id (.composite { composite with merged := snapshot })) := by
    simp only [merge, run_bind, opening] at folded ⊢
    rw [folded]
    rfl
  have noted : (middle.note (.merged snapshot.schemas.length snapshot.fields.length
      snapshot.generation)).compositeAt? id = some { composite with merged } := stillFound
  rw [result, Store.compositeAt?_setKind_composite noted, if_pos rfl]
  exact ⟨rfl, revision, generation⟩

theorem run_snapshotOf {composite : CompositeType}
    (found : store.compositeAt? id = some composite) :
    (snapshotOf id).run store = if composite.isCurrent then (composite.merged, store)
      else (merge (fieldsWithin store.types.size) id composite).run store := by
  have bound : (store.type? id).bind DocumentType.composite? = some composite := found
  simp only [snapshotOf, run_bind, run_type?, bound]
  split <;> rfl

theorem compositeAt?_snapshotOf {composite : CompositeType}
    (found : store.compositeAt? id = some composite) :
    ∃ shown, ((snapshotOf id).run store).2.compositeAt? id = some shown ∧
      shown = { composite with merged := ((snapshotOf id).run store).1 } ∧
      shown.isCurrent = true := by
  rw [run_snapshotOf found]
  cases now : composite.isCurrent with
  | true =>
      rw [if_pos rfl]
      exact ⟨composite, found, rfl, now⟩
  | false =>
      rw [if_neg Bool.false_ne_true]
      rcases compositeAt?_merge found store.types.size with ⟨shown, revision, -⟩
      refine ⟨_, shown, rfl, ?_⟩
      rw [CompositeType.isCurrent, revision]
      exact decide_eq_true (Nat.le_refl _)

theorem run_snapshotOf_later {composite : CompositeType}
    (found : store.compositeAt? id = some composite)
    (steady : ((snapshotOf id).run store).2.Steady later) :
    (snapshotOf id).run later = (((snapshotOf id).run store).1, later) := by
  rcases compositeAt?_snapshotOf found with ⟨shown, shownFound, rfl, now⟩
  rw [run_snapshotOf (steady.current id _ shownFound now), if_pos now]

/-! ## Lookups, texts and instances -/

theorem steadies_lookUp (id : TypeId) (name : String) : Steadies (lookUp id name) := by
  refine .of_run fun store => ?_
  simp only [lookUp, run_bind, run_type?]
  split
  next complex kind => exact .looked (Store.complexAt?_of_kind kind) name
  · exact (steadies_snapshotOf id).run store
  · exact .refl store

theorem keptByConsulting_steady (start : Store) : KeptByConsulting start.Steady where
  note notice := steadies_note notice start
  lookUp id name := steadies_lookUp id name start
  snapshotOf id := steadies_snapshotOf id start
  primitiveOf id := Steadies.of_run (fun store => by
    rcases run_primitiveOf id store with ⟨trail, primitive, finds, run⟩ | ⟨run, -⟩
    · rw [run]
      exact .recalled finds
    · rw [run]
      exact .refl store) start

theorem steadies_conversionOf (id : TypeId) : Steadies (conversionOf id) :=
  fun start => (keptByConsulting_steady start).conversionOf id

theorem steadies_decodeWithin (depth : Nat) (id : TypeId) (text : Option String) :
    Steadies (Attempt.decodeWithin depth id text).run :=
  fun start => preserves_decodeWithin (keptByConsulting_steady start).primitiveOf depth id text

theorem steadies_instantiateField {instantiate : TypeId → Action Value}
    (each : ∀ id, Steadies (instantiate id)) (field : Field) :
    Steadies (instantiateField instantiate field) :=
  fun start => (keptByConsulting_steady start).instantiateField (fun id => each id start) field

theorem steadies_instantiateFields {instantiate : TypeId → Action Value}
    (each : ∀ id, Steadies (instantiate id)) (fields : List Field) :
    Steadies (instantiateFields instantiate fields) :=
  fun start => (keptByConsulting_steady start).instantiateFields (fun id => each id start) fields

theorem steadies_instantiateWithin (depth : Nat) (id : TypeId) :
    Steadies (instantiateWithin depth id) :=
  fun start => (keptByConsulting_steady start).instantiateWithin depth id

end Action
end DocumentTypes
