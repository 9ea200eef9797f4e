import DocumentTypes.Proofs.ChainEnds
import DocumentTypes.Proofs.FieldIndexes
import DocumentTypes.Proofs.OrderlyTypes

/-! # Shown fields

The fields that a type shows lead to other types, and those to more. To read types settles what
they show: composites are merged, and fields that were to be shown are shown then. But nothing
comes to be shown that was not to be shown before, so what holds of all fields behind a type
holds of all that are ever found there. -/

namespace DocumentTypes

namespace Store

variable {store before middle after : Store} {id other : TypeId} {field : Field}

/-- A field that a type shows as soon as it is read: one that a complex type has, or that a
composite has merged, or that an outdated composite will merge from one of its schemas. -/
inductive Shows (store : Store) : TypeId → Field → Prop
  | declared {id : TypeId} {complex : ComplexType} {field : Field}
      (found : store.complexAt? id = some complex) (member : field ∈ complex.fields.values) :
      Shows store id field
  | merged {id : TypeId} {composite : CompositeType} {field : Field}
      (found : store.compositeAt? id = some composite) (current : composite.isCurrent = true)
      (member : field ∈ composite.merged.fields) : Shows store id field
  | pending {id schema : TypeId} {composite : CompositeType} {entry : String × TypeRef}
      {field : Field} (found : store.compositeAt? id = some composite)
      (outdated : composite.isCurrent = false) (registered : entry ∈ composite.references.entries)
      (resolved : store.resolve entry.2 = some schema) (shows : Shows store schema field) :
      Shows store id field

/-- Where a type leads at once: to the value types of its fields, or to that of its items. -/
inductive Leads (store : Store) (id other : TypeId) : Prop
  | field {field : Field} (shows : store.Shows id field)
      (resolved : store.resolve field.valueType = some other) : Leads store id other
  | item (item : store.item? id = some other) : Leads store id other

/-- No field that is reached from a type is named like an index. -/
def IndexFree (store : Store) (id : TypeId) : Prop :=
  ∀ inner, Relation.ReflTransGen store.Leads id inner → ∀ field, store.Shows inner field →
    Path.isListIndex field.localName = false

theorem IndexFree.shows (indexFree : store.IndexFree id) (shows : store.Shows id field) :
    Path.isListIndex field.localName = false :=
  indexFree id .refl field shows

theorem IndexFree.leads (indexFree : store.IndexFree id) (leads : store.Leads id other) :
    store.IndexFree other :=
  fun inner reached => indexFree inner (.head leads reached)

theorem IndexFree.of_types (declared : ∀ type ∈ store.types, ∀ complex ∈ type.complex?,
      ∀ field ∈ complex.fields.values, Path.isListIndex field.localName = false)
    (merged : ∀ type ∈ store.types, ∀ composite ∈ type.composite?,
      ∀ field ∈ composite.merged.fields, Path.isListIndex field.localName = false)
    (id : TypeId) : store.IndexFree id := by
  intro inner reached field shows
  clear reached
  induction shows with
  | declared found member =>
      rcases Option.bind_eq_some_iff.mp found with ⟨type, typeFound, isComplex⟩
      exact declared type (mem_types_iff.mpr ⟨_, typeFound⟩) _ isComplex _ member
  | merged found _ member =>
      rcases Option.bind_eq_some_iff.mp found with ⟨type, typeFound, isComposite⟩
      exact merged type (mem_types_iff.mpr ⟨_, typeFound⟩) _ isComposite _ member
  | pending _ _ _ _ _ induction => exact induction

/-! ## Reading -/

/-- A store after types have been read, which show nothing new. -/
structure Narrows (before after : Store) : Prop where
  steady : before.Steady after
  merged : ∀ id composite, after.compositeAt? id = some composite → composite.isCurrent = true →
    ∀ field ∈ composite.merged.fields, before.Shows id field

namespace Narrows

theorem of_compositeAt? (steady : before.Steady after)
    (same : ∀ id, after.compositeAt? id = before.compositeAt? id) : before.Narrows after where
  steady := steady
  merged id _ found current _ member := .merged ((same id).symm.trans found) current member

theorem refl (store : Store) : store.Narrows store := .of_compositeAt? (.refl store) fun _ => rfl

theorem noted (store : Store) (notice : Notice) : store.Narrows (store.note notice) :=
  .of_compositeAt? (.noted store notice) fun _ => rfl

/-- What is shown afterwards was shown before. The induction is on the way to the field, through
the composites that still are outdated. -/
theorem shows (narrows : before.Narrows after) (shows : after.Shows id field) :
    before.Shows id field := by
  induction shows with
  | declared found member =>
      rcases narrows.steady.sameDeclared.symm.complexAt? found with ⟨lookups, earlier⟩
      exact .declared earlier member
  | merged found current member => exact narrows.merged _ _ found current _ member
  | @pending id schema composite entry field found outdated registered resolved _ induction =>
      rcases narrows.steady.sameDeclared.symm.compositeAt? found with ⟨merged, earlier⟩
      cases now : ({ composite with merged } : CompositeType).isCurrent with
      | false =>
          exact .pending earlier now registered (narrows.steady.resolve resolved) induction
      | true =>
          have same := Option.some.inj (found.symm.trans (narrows.steady.current _ _ earlier now))
          rw [same, now] at outdated
          cases outdated

theorem leads (narrows : before.Narrows after) (leads : after.Leads id other) :
    before.Leads id other := by
  cases leads with
  | field shows resolved => exact .field (narrows.shows shows) (narrows.steady.resolve resolved)
  | item item => exact .item (narrows.steady.item? item)

theorem indexFree (narrows : before.Narrows after) (indexFree : before.IndexFree id) :
    after.IndexFree id :=
  fun inner reached field shows =>
    indexFree inner (Relation.ReflTransGen.mono (fun _ _ => narrows.leads) _ _ reached) field
      (narrows.shows shows)

theorem trans {first second third : Store} (earlier : first.Narrows second)
    (later : second.Narrows third) : first.Narrows third where
  steady := earlier.steady.trans later.steady
  merged id composite found current field member :=
    earlier.shows (later.merged id composite found current field member)

theorem looked {complex : ComplexType} (found : store.complexAt? id = some complex)
    (name : String) : store.Narrows (store.setKind id (.complex (complex.lookUp name).1)) :=
  .of_compositeAt? (.looked found name) fun other => compositeAt?_setKind_complex found other

end Narrows
end Store

namespace Action

open Store (Narrows)

variable {store start middle : Store} {id : TypeId} {composite : CompositeType}
  {fields : TypeId → Action (List Field)} {snapshot : Snapshot} {entry : String × TypeRef}

/-! ## Mergers -/

/-- An action tells the fields of types, and nothing else comes to be shown by that. -/
def TellsShown (fields : TypeId → Action (List Field)) : Prop :=
  ∀ id store, store.Narrows ((fields id).run store).2 ∧
    ∀ field ∈ ((fields id).run store).1, store.Shows id field

theorem narrows_mergeSchema (tells : TellsShown fields) (narrows : start.Narrows middle)
    (found : start.compositeAt? id = some composite) (outdated : composite.isCurrent = false)
    (registered : entry ∈ composite.references.entries)
    (within : ∀ field ∈ snapshot.fields, start.Shows id field) :
    start.Narrows ((mergeSchema fields snapshot entry).run middle).2 ∧
      ∀ field ∈ ((mergeSchema fields snapshot entry).run middle).1.fields,
        start.Shows id field := by
  simp only [mergeSchema, run_bind, run_resolve]
  cases resolved : middle.resolve entry.2 with
  | none => exact ⟨narrows.trans (.noted middle _), within⟩
  | some schema =>
      rcases tells schema middle with ⟨later, told⟩
      refine ⟨narrows.trans later, fun field member => ?_⟩
      rcases List.mem_append.mp member with before | new
      · exact within field before
      · exact .pending found outdated registered (narrows.steady.resolve resolved)
          (narrows.shows (told field new))

/-- The induction is on the references still to be merged. -/
theorem narrows_foldlM_mergeSchema (tells : TellsShown fields)
    (found : start.compositeAt? id = some composite) (outdated : composite.isCurrent = false)
    (entries : List (String × TypeRef))
    (registered : ∀ entry ∈ entries, entry ∈ composite.references.entries)
    (narrows : start.Narrows middle) (snapshot : Snapshot)
    (within : ∀ field ∈ snapshot.fields, start.Shows id field) :
    start.Narrows ((entries.foldlM (mergeSchema fields) snapshot).run middle).2 ∧
      ∀ field ∈ ((entries.foldlM (mergeSchema fields) snapshot).run middle).1.fields,
        start.Shows id field := by
  induction entries generalizing middle snapshot with
  | nil => exact ⟨narrows, within⟩
  | cons entry rest induction =>
      rw [List.foldlM_cons, run_bind]
      rcases narrows_mergeSchema tells narrows found outdated (registered entry List.mem_cons_self)
        within with ⟨narrowsNext, withinNext⟩
      exact induction (fun other member => registered other (List.mem_cons_of_mem _ member))
        narrowsNext _ withinNext

theorem narrows_merge {depth : Nat} (tells : TellsShown (fieldsWithin depth))
    (found : store.compositeAt? id = some composite) (outdated : composite.isCurrent = false) :
    store.Narrows ((merge (fieldsWithin depth) id composite).run store).2 ∧
      ∀ field ∈ ((merge (fieldsWithin depth) id composite).run store).1.fields,
        store.Shows id field := by
  have steady := (steady_merge (showsFields_fieldsWithin depth) found outdated).1
  let opening : Snapshot := { Snapshot.empty with
    generation := composite.merged.generation + 1
    revision := composite.requested }
  rcases narrows_foldlM_mergeSchema tells found outdated composite.references.entries
    (fun _ member => member) (.refl store) opening (fun _ none => nomatch none) with
    ⟨narrows, within⟩
  rcases folded : (composite.references.entries.foldlM (mergeSchema (fieldsWithin depth))
    opening).run store with ⟨snapshot, middle⟩
  rw [folded] at narrows within
  have result : (merge (fieldsWithin depth) id composite).run store =
      (snapshot, (middle.note (.merged snapshot.schemas.length snapshot.fields.length
        snapshot.generation)).setKind id (.composite { composite with merged := snapshot })) := by
    simp only [merge, run_bind, opening] at folded ⊢
    rw [folded]
    rfl
  rcases narrows.steady.sameDeclared.compositeAt? found with ⟨merged, stillFound⟩
  have noted : (middle.note (.merged snapshot.schemas.length snapshot.fields.length
      snapshot.generation)).compositeAt? id = some { composite with merged } := stillFound
  rw [result] at steady ⊢
  refine ⟨⟨steady, fun other shown shownFound current field member => ?_⟩, within⟩
  rw [Store.compositeAt?_setKind_composite noted] at shownFound
  split at shownFound
  next same =>
    cases shownFound
    exact same ▸ within field member
  next => exact narrows.merged other shown shownFound current field member

theorem tellsShown_fieldsWithin (depth : Nat) : TellsShown (fieldsWithin depth) := by
  induction depth using Nat.strongRecOn with
  | _ depth induction =>
      intro id store
      rcases run_fieldsWithin depth id store with ⟨complex, found, run⟩ |
        ⟨composite, found, current, run⟩ | ⟨composite, less, found, outdated, rfl, run⟩ |
        ⟨_, _, _, _, run⟩ | run
      all_goals rw [run]
      · exact ⟨.refl store, fun field member => .declared found member⟩
      · exact ⟨.refl store, fun field member => .merged found current member⟩
      · exact narrows_merge (induction less (Nat.lt_succ_self less)) found outdated
      · exact ⟨.noted store _, fun _ none => nomatch none⟩
      · exact ⟨.refl store, fun _ none => nomatch none⟩

theorem narrows_snapshotOf (id : TypeId) (store : Store) :
    store.Narrows ((snapshotOf id).run store).2 ∧
      ∀ field ∈ ((snapshotOf id).run store).1.fields, store.Shows id field := by
  cases found : store.compositeAt? id with
  | none =>
      have absent : (store.type? id).bind DocumentType.composite? = none := found
      simp only [snapshotOf, run_bind, run_type?, absent]
      exact ⟨.refl store, fun _ member => (List.not_mem_nil member).elim⟩
  | some composite =>
      rw [run_snapshotOf found]
      split
      next current => exact ⟨.refl store, fun field member => .merged found current member⟩
      next outdated =>
        exact narrows_merge (tellsShown_fieldsWithin _) found (eq_false_of_ne_true outdated)

/-! ## Lookups -/

theorem run_lookUp_composite (found : store.compositeAt? id = some composite) (name : String) :
    (lookUp id name).run store = (((snapshotOf id).run store).1.fieldsByName.get? name,
      ((snapshotOf id).run store).2) := by
  have kind := Store.kind_of_compositeAt? found
  simp only [lookUp, run_bind, run_type?, kind]
  rfl

theorem run_lookUp_plain (notComplex : store.complexAt? id = none)
    (notComposite : store.compositeAt? id = none) (name : String) :
    (lookUp id name).run store = (none, store) := by
  unfold lookUp
  rw [run_bind, run_type?]
  rw [Store.complexAt?_eq] at notComplex
  rw [Store.compositeAt?_eq] at notComposite
  dsimp only
  split
  next complex kind => rw [kind] at notComplex; cases notComplex
  next composite kind => rw [kind] at notComposite; cases notComposite
  · rfl

theorem narrows_lookUp (orderly : store.Orderly) (indexed : store.Indexed) (id : TypeId)
    (name : String) :
    store.Narrows ((lookUp id name).run store).2 ∧
      ∀ field ∈ ((lookUp id name).run store).1, store.Shows id field := by
  rcases complexFound : store.complexAt? id with _ | complex
  · rcases found : store.compositeAt? id with _ | composite
    · rw [run_lookUp_plain complexFound found]
      exact ⟨.refl store, fun field known => (Option.not_mem_none field known).elim⟩
    · rcases narrows_snapshotOf id store with ⟨narrows, shown⟩
      rw [run_lookUp_composite found]
      refine ⟨narrows, fun field known => shown field ?_⟩
      rw [Option.mem_def, indexed_shown indexed id name] at known
      exact List.mem_reverse.mp (List.mem_of_find?_eq_some known)
  · rw [run_lookUp_complex complexFound]
    refine ⟨.looked complexFound name, fun field known => .declared complexFound ?_⟩
    rw [Option.mem_def, ComplexType.lookUp_snd (orderly id complex complexFound).remembers] at known
    exact ComplexType.mem_of_find? known

end Action
end DocumentTypes
