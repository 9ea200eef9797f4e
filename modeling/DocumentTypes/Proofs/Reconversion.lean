import DocumentTypes.Proofs.PrimitiveMemos
import DocumentTypes.Proofs.Steadiness

/-! # Converting again

A type converts what it has converted to itself. Each part of a value is converted in the
state that the parts before it have left, so what is shown of a part is that its answer
stands in every steady state that comes later. -/

namespace DocumentTypes

open Store (Steady)

variable {store later : Store} {id : TypeId}

/-! ## Answers that stand -/

namespace Store

theorem Steady.kind? (steady : store.Steady later) (id : TypeId) :
    ((store.type? id).map fun type => type.kind.declared) =
      (later.type? id).map fun type => type.kind.declared := by
  have equal := congrArg (Store.type? · id) steady.sameDeclared.eq
  simp only [type?_stripped] at equal
  have kinds := congrArg (Option.map DocumentType.kind) equal
  simpa only [Option.map_map, Function.comp_def] using kinds

theorem Steady.primitiveAt?_eq (steady : store.Steady later) (id : TypeId) :
    later.primitiveAt? id = store.primitiveAt? id := by
  cases found : store.primitiveAt? id with
  | some kind => exact steady.sameDeclared.primitiveAt? found
  | none =>
      by_contra other
      rcases Option.ne_none_iff_exists'.mp other with ⟨kind, laterFound⟩
      have early := steady.sameDeclared.symm.primitiveAt? laterFound
      rw [found] at early
      cases early

end Store

namespace Action

theorem run_codecOf (id : TypeId) (store : Store) : (codecOf id).run store =
    (((primitiveOf id).run store).1.bind ((primitiveOf id).run store).2.primitiveAt?,
      ((primitiveOf id).run store).2) := by
  unfold codecOf
  rw [run_bind]
  cases ((primitiveOf id).run store).1 with
  | none => rfl
  | some primitive => rfl

theorem codecOf_later (steady : ((codecOf id).run store).2.Steady later) :
    ((codecOf id).run later).1 = ((codecOf id).run store).1 := by
  rw [run_codecOf] at steady
  rw [run_codecOf, run_codecOf]
  dsimp only at steady ⊢
  rcases run_primitiveOf id store with ⟨trail, primitive, finds, run⟩ | ⟨run, none⟩
  · rw [run] at steady ⊢
    have stillFinds : later.Finds id [] primitive := by
      cases finds.recalled with
      | primitive found => exact .primitive (steady.sameDeclared.primitiveAt? found)
      | remembered known => exact .remembered (steady.consulted.remembered? known)
    rw [run_primitiveOf_of_finds stillFinds]
    exact steady.primitiveAt?_eq primitive
  · rw [run] at steady ⊢
    rcases run_primitiveOf id later with ⟨trail, primitive, finds, -⟩ | ⟨again, -⟩
    · rcases steady.of_finds finds with ⟨earlier, found⟩
      exact absurd found (none earlier primitive)
    · rw [again]
      rfl

structure Recalls (field? : String → Action (Option Field)) : Prop where
  steadies : ∀ name, Steadies (field? name)
  later : ∀ {name store field later}, ((field? name).run store).1 = some field →
    ((field? name).run store).2.Steady later → ((field? name).run later).1 = some field

theorem recalls_lookUp (id : TypeId) : Recalls (lookUp id) where
  steadies := steadies_lookUp id
  later {name store field later} answer steady := by
    cases complexFound : store.complexAt? id with
    | some complex =>
        rw [run_lookUp_complex complexFound] at answer steady
        have remembered : (store.setKind id (.complex (complex.lookUp name).1)).lookedUp? id name =
            some field := by
          rw [Store.lookedUp?, Store.complexAt?_setKind_complex complexFound, if_pos rfl]
          exact ComplexType.lookUp_remembers answer
        have recalled := steady.lookedUp id name field remembered
        rcases Option.bind_eq_some_iff.mp recalled with ⟨laterComplex, laterFound, known⟩
        rw [run_lookUp_complex laterFound, ComplexType.lookUp, known]
    | none =>
        cases compositeFound : store.compositeAt? id with
        | some composite =>
            have run (given : Store) {present : CompositeType}
                (found : given.compositeAt? id = some present) : (lookUp id name).run given =
                  (((snapshotOf id).run given).1.fieldsByName.get? name,
                    ((snapshotOf id).run given).2) := by
              have kind := Store.kind_of_compositeAt? found
              simp only [lookUp, run_bind, run_type?, kind, run_pure]
            rw [run store compositeFound] at answer steady
            rcases compositeAt?_snapshotOf compositeFound with ⟨shown, shownFound, -, now⟩
            rw [run later (steady.current id shown shownFound now),
              run_snapshotOf_later compositeFound steady]
            exact answer
        | none =>
            have nothing : ((lookUp id name).run store).1 = none := by
              simp only [lookUp, run_bind, run_type?]
              split
              next kind => rw [Store.complexAt?_of_kind kind] at complexFound; cases complexFound
              next kind => rw [Store.compositeAt?_of_kind kind] at compositeFound; cases compositeFound
              · rfl
            rw [nothing] at answer
            cases answer

theorem recalls_shown (snapshot : Snapshot) :
    Recalls fun name => return snapshot.fieldsByName.get? name where
  steadies _ := .pure _
  later answer _ := answer

/-! ## Conversions that stand -/

theorem run_conversionOf_complex {complex : ComplexType}
    (found : store.complexAt? id = some complex) :
    (conversionOf id).run store = (.record (lookUp id), store) := by
  rw [conversionOf, run_bind, run_type?, Store.kind_of_complexAt? found]
  rfl

theorem run_conversionOf_composite {composite : CompositeType}
    (found : store.compositeAt? id = some composite) :
    (conversionOf id).run store =
      (.record fun name => return ((snapshotOf id).run store).1.fieldsByName.get? name,
        ((snapshotOf id).run store).2) := by
  rw [conversionOf, run_bind, run_type?, Store.kind_of_compositeAt? found]
  rfl

theorem recalls_of_conversionOf {field? : String → Action (Option Field)}
    (conversion : ((conversionOf id).run store).1 = .record field?) : Recalls field? := by
  unfold conversionOf at conversion
  rw [run_bind, run_type?] at conversion
  split at conversion
  · cases conversion
  · cases conversion
  · cases conversion
    exact recalls_lookUp id
  · cases conversion
    exact recalls_shown _
  · cases conversion
  · cases conversion

theorem conversionOf_later (steady : ((conversionOf id).run store).2.Steady later) :
    ((conversionOf id).run later).1 = ((conversionOf id).run store).1 ∨
      ∃ item, ((conversionOf id).run store).1 = .sequence item ∧
        ((conversionOf id).run later).1 = .sequence none := by
  have kinds := (((steadies_conversionOf id).run store).trans steady).kind? id
  rcases found : store.type? id with _ | ⟨name, base, flags, kind⟩ <;>
    rcases laterFound : later.type? id with _ | ⟨laterName, laterBase, laterFlags, laterKind⟩ <;>
    rw [found, laterFound] at kinds
  · refine .inl ?_
    simp only [conversionOf, run_bind, run_type?, found, laterFound, Option.map_none]
    rfl
  · cases kinds
  · cases kinds
  · have same := Option.some.inj kinds
    simp only [conversionOf, run_bind, run_type?, found, laterFound, Option.map_some] at steady ⊢
    cases kind with
    | primitive =>
        cases laterKind with
        | primitive => exact .inl (congrArg Conversion.scalar (codecOf_later steady))
        | simple | complex | composite | list => cases same
    | simple =>
        cases laterKind with
        | simple => exact .inl (congrArg Conversion.scalar (codecOf_later steady))
        | primitive | complex | composite | list => cases same
    | complex =>
        cases laterKind with
        | complex => exact .inl rfl
        | primitive | simple | composite | list => cases same
    | composite composite =>
        have compositeFound : store.compositeAt? id = some composite := by
          rw [Store.compositeAt?, found]
          rfl
        cases laterKind with
        | composite =>
            refine .inl ?_
            simp only [run_bind, run_snapshotOf_later compositeFound steady]
            rfl
        | primitive | simple | complex | list => cases same
    | list list =>
        cases laterKind with
        | list =>
            cases same
            simp only [run_bind, run_resolve, run_pure] at steady ⊢
            cases laterItem : later.resolve list.item.valueType with
            | none => exact .inr ⟨_, rfl, rfl⟩
            | some item => exact .inl (congrArg _ (steady.resolve laterItem).symm)
        | primitive | simple | complex | composite => cases same

end Action

namespace Attempt

open DocumentTypes.Action (Recalls Steadies steadies_conversionOf recalls_of_conversionOf
  conversionOf_later)

variable {α : Type} {after : Store} {field? : String → Action (Option Field)}
  {valueType laterType : Option TypeId} {value answer : Value}

theorem keptByLooking_steady (start : Store) : KeptByLooking start.Steady :=
  (Action.keptByConsulting_steady start).keptByLooking

theorem steadies_convert (value : Value) (id : TypeId) : Steadies (convert value id).run :=
  fun start => preserves_convert (keptByLooking_steady start) value id

theorem steadies_convertEntries (recalls : Recalls field?) (entries : List (String × Value)) :
    Steadies (convertEntries entries field?).run :=
  fun start => preserves_convertEntries (keptByLooking_steady start) entries
    fun name => recalls.steadies name start

theorem steadies_convertItems (items : List Value) (item : Option TypeId) :
    Steadies (convertItems items item).run :=
  fun start => preserves_convertItems (keptByLooking_steady start) items item

theorem steady_of_run {attempt : Attempt α} (steadies : Steadies attempt.run)
    {outcome : Except Failure α} (run : attempt.run.run store = (outcome, after)) :
    store.Steady after := by
  have steady := steadies.run store
  rwa [show attempt.run.run store = _ from run] at steady

/-! ## Parts -/

/-- A part of a value, which stays as it is where its type cannot be resolved. -/
def convertUnder (valueType : Option TypeId) (value : Value) : Attempt Value :=
  match valueType with
  | some valueType => convert value valueType
  | none => pure value

theorem convertEntries_cons (key : String) (entry : Value) (rest : List (String × Value))
    (field? : String → Action (Option Field)) :
    convertEntries ((key, entry) :: rest) field? = (do
      let converted ← convertUnder (← typeUnder field? key) entry
      return (key, converted) :: (← convertEntries rest field?)) := by
  rw [convertEntries]
  congr 1
  funext valueType
  cases valueType <;> rfl

theorem convertItems_cons (value : Value) (rest : List Value) (item : Option TypeId) :
    convertItems (value :: rest) item = (do
      let converted ← convertUnder item value
      return converted :: (← convertItems rest item)) := by
  cases item <;> rfl

theorem convertItems_none (items : List Value) (store : Store) :
    (convertItems items none).run.run store = (.ok items, store) := by
  induction items with
  | nil => rfl
  | cons value rest induction =>
      have part : (convertUnder none value).run.run store = (.ok value, store) := rfl
      rw [convertItems_cons, run_bind_ok part, run_bind_ok induction]
      rfl

theorem steadies_typeUnder (recalls : Recalls field?) (key : String) :
    Steadies (typeUnder field? key).run :=
  fun start => preserves_typeUnder (fun name => recalls.steadies name start) key

theorem steadies_convertUnder (valueType : Option TypeId) (value : Value) :
    Steadies (convertUnder valueType value).run := by
  cases valueType with
  | none => exact .pure _
  | some valueType => exact steadies_convert value valueType

/-! ## Converting what has been converted -/

/-- To do it again with the answer gives the answer, then and later. -/
def Stands (attempt : Attempt α) (again : α → Attempt α) : Prop :=
  ∀ store after answer later, attempt.run.run store = (.ok answer, after) → after.Steady later →
    ((again answer).run.run later).1 = .ok answer

theorem typeUnder_later (recalls : Recalls field?) {key : String}
    (run : (typeUnder field? key).run.run store = (.ok valueType, after))
    (steady : after.Steady later) : ∃ laterType next,
      (typeUnder field? key).run.run later = (.ok laterType, next) ∧
        (laterType = valueType ∨ laterType = none) := by
  have hit {given : Store} {field : Field} (found : ((field? key).run given).1 = some field) :
      (typeUnder field? key).run.run given =
        (.ok (((field? key).run given).2.resolve field.valueType), ((field? key).run given).2) := by
    rw [typeUnder, run_bind, run_lift, found]
    rfl
  have miss (found : ((field? key).run store).1 = none) : (typeUnder field? key).run.run store =
      (.error (.noSuchField key), ((field? key).run store).2) := by
    rw [typeUnder, run_bind, run_lift, found]
    rfl
  cases found : ((field? key).run store).1 with
  | none =>
      rw [miss found] at run
      cases run
  | some field =>
      rw [hit found] at run
      cases run
      have stillFound := recalls.later found steady
      refine ⟨((field? key).run later).2.resolve field.valueType, ((field? key).run later).2,
        hit stillFound, ?_⟩
      cases resolved : ((field? key).run later).2.resolve field.valueType with
      | none => exact .inr rfl
      | some laterType =>
          exact .inl ((steady.trans ((recalls.steadies key).run later)).resolve resolved).symm

theorem convertUnder_later (stands : ∀ id, Stands (convert value id) (convert · id))
    (run : (convertUnder valueType value).run.run store = (.ok answer, after))
    (steady : after.Steady later) (less : laterType = valueType ∨ laterType = none) :
    ((convertUnder laterType answer).run.run later).1 = .ok answer := by
  cases laterType with
  | none => rfl
  | some laterType =>
      rcases less with rfl | none
      · exact stands laterType store after answer later run steady
      · cases none

theorem stands_entries_cons (recalls : Recalls field?) {key : String} {entry : Value}
    {rest : List (String × Value)} (first : ∀ id, Stands (convert entry id) (convert · id))
    (others : Stands (convertEntries rest field?) (convertEntries · field?)) :
    Stands (convertEntries ((key, entry) :: rest) field?) (convertEntries · field?) := by
  intro store after answer later run steady
  rw [convertEntries_cons] at run
  rcases ok_of_run_bind run with ⟨valueType, typed, typedRun, run⟩
  rcases ok_of_run_bind run with ⟨converted, middle, firstRun, run⟩
  rcases ok_of_run_bind run with ⟨convertedRest, last, restRun, run⟩
  cases run
  have firstSteady := steady_of_run (steadies_convertUnder valueType entry) firstRun
  have restSteady := steady_of_run (steadies_convertEntries recalls rest) restRun
  rcases typeUnder_later recalls typedRun ((firstSteady.trans restSteady).trans steady) with
    ⟨laterType, next, typedAgain, less⟩
  have nextSteady := steady_of_run (steadies_typeUnder recalls key) typedAgain
  have firstAgain := convertUnder_later first firstRun
    (restSteady.trans (steady.trans nextSteady)) less
  have lastSteady := (steadies_convertUnder laterType converted).run next
  have restAgain := others middle after convertedRest _ restRun
    (steady.trans (nextSteady.trans lastSteady))
  dsimp only
  rw [convertEntries_cons, run_bind_ok typedAgain, run_bind_ok (run_eq_ok firstAgain),
    run_bind_ok (run_eq_ok restAgain)]
  rfl

theorem stands_items_cons {item : Option TypeId} {rest : List Value}
    (first : ∀ id, Stands (convert value id) (convert · id))
    (others : Stands (convertItems rest item) (convertItems · item)) :
    Stands (convertItems (value :: rest) item) (convertItems · item) := by
  intro store after answer later run steady
  rw [convertItems_cons] at run
  rcases ok_of_run_bind run with ⟨converted, middle, firstRun, run⟩
  rcases ok_of_run_bind run with ⟨convertedRest, last, restRun, run⟩
  cases run
  have restSteady := steady_of_run (steadies_convertItems rest item) restRun
  have firstAgain := convertUnder_later first firstRun (restSteady.trans steady) (.inl rfl)
  have lastSteady := (steadies_convertUnder item converted).run later
  have restAgain := others middle after convertedRest _ restRun (steady.trans lastSteady)
  dsimp only
  rw [convertItems_cons, run_bind_ok (run_eq_ok firstAgain), run_bind_ok (run_eq_ok restAgain)]
  rfl

/-- How a value is converted once it is known how its type converts. -/
def convertBy (conversion : Conversion) (value : Value) : Attempt Value :=
  match conversion with
  | .scalar none => return value
  | .scalar (some codec) => codec.convert value
  | .record field? =>
    match value with
    | .null => return .null
    | .map entries => return .map (← convertEntries entries field?)
    | other => throw (.expectedMap other.shape)
  | .sequence item =>
    match value with
    | .null => return .null
    | .list items => return .list (← convertItems items item)
    | .array items => return .array (← convertItems items item)
    | other => throw (.expectedList other.shape)

theorem run_convert (value : Value) (id : TypeId) (store : Store) :
    (convert value id).run.run store =
      (convertBy ((Action.conversionOf id).run store).1 value).run.run
        ((Action.conversionOf id).run store).2 := by
  rw [convert_eq, run_bind, run_lift]
  rfl

/-- The ways in which a value can be converted. -/
inductive Converts (conversion : Conversion) (store after : Store) : Value → Value → Prop
  | kept {value : Value} (scalar : conversion = .scalar none) (same : after = store) :
      Converts conversion store after value value
  | scalar {value answer : Value} {codec : PrimitiveKind}
      (scalar : conversion = .scalar (some codec)) (converts : codec.convert value = .ok answer)
      (same : after = store) : Converts conversion store after value answer
  | null (structured : ∀ codec, conversion ≠ .scalar codec) (same : after = store) :
      Converts conversion store after .null .null
  | map {entries converted : List (String × Value)} {field? : String → Action (Option Field)}
      (record : conversion = .record field?)
      (run : (convertEntries entries field?).run.run store = (.ok converted, after)) :
      Converts conversion store after (.map entries) (.map converted)
  | list {items converted : List Value} {item : Option TypeId}
      (sequence : conversion = .sequence item)
      (run : (convertItems items item).run.run store = (.ok converted, after)) :
      Converts conversion store after (.list items) (.list converted)
  | array {items converted : List Value} {item : Option TypeId}
      (sequence : conversion = .sequence item)
      (run : (convertItems items item).run.run store = (.ok converted, after)) :
      Converts conversion store after (.array items) (.array converted)

theorem converts_of_run {conversion : Conversion}
    (run : (convertBy conversion value).run.run store = (.ok answer, after)) :
    Converts conversion store after value answer := by
  cases conversion with
  | scalar codec =>
      cases codec with
      | none =>
          cases run
          exact .kept rfl rfl
      | some codec =>
          rcases Prod.mk.inj ((run_liftExcept (codec.convert value) store).symm.trans run) with
            ⟨converts, same⟩
          exact .scalar rfl converts same.symm
  | record field? =>
      cases value with
      | null =>
          cases run
          exact .null nofun rfl
      | map entries =>
          rcases ok_of_run_bind run with ⟨converted, middle, entriesRun, rest⟩
          cases rest
          exact .map rfl entriesRun
      | boolean | long | double | string | date | binary | list | array => cases run
  | sequence item =>
      cases value with
      | null =>
          cases run
          exact .null nofun rfl
      | list items =>
          rcases ok_of_run_bind run with ⟨converted, middle, itemsRun, rest⟩
          cases rest
          exact .list rfl itemsRun
      | array items =>
          rcases ok_of_run_bind run with ⟨converted, middle, itemsRun, rest⟩
          cases rest
          exact .array rfl itemsRun
      | boolean | long | double | string | date | binary | map => cases run

theorem items_later {item : Option TypeId} {items converted : List Value}
    (sequence : ((Action.conversionOf id).run store).1 = .sequence item)
    (run : (convertItems items item).run.run ((Action.conversionOf id).run store).2 =
      (.ok converted, after))
    (stands : Stands (convertItems items item) (convertItems · item))
    (steady : after.Steady later) : ∃ laterItem,
      ((Action.conversionOf id).run later).1 = .sequence laterItem ∧
      ((convertItems converted laterItem).run.run ((Action.conversionOf id).run later).2).1 =
        .ok converted := by
  have asked := (steadies_conversionOf id).run later
  have itemsSteady := steady_of_run (steadies_convertItems items item) run
  rcases conversionOf_later (itemsSteady.trans steady) with equal | ⟨_, -, none⟩
  · exact ⟨item, equal.trans sequence, stands _ after converted _ run (steady.trans asked)⟩
  · exact ⟨.none, none, by rw [convertItems_none]⟩

/-- A value stands if its parts do. -/
theorem stands_convert_of (id : TypeId)
    (entriesStand : ∀ entries, value = .map entries → ∀ field?, Recalls field? →
      Stands (convertEntries entries field?) (convertEntries · field?))
    (itemsStand : ∀ items, value.asSequence? = some items → ∀ item,
      Stands (convertItems items item) (convertItems · item)) :
    Stands (convert value id) (convert · id) := by
  intro store after answer later run steady
  rw [run_convert] at run
  dsimp only
  rw [run_convert]
  cases converts_of_run run with
  | kept scalar unchanged =>
      subst unchanged
      rcases conversionOf_later steady with equal | ⟨item, sequence, -⟩
      · rw [equal, scalar]
        rfl
      · cases scalar.symm.trans sequence
  | scalar scalar converts unchanged =>
      subst unchanged
      rcases conversionOf_later steady with equal | ⟨item, sequence, -⟩
      · rw [equal, scalar]
        exact PrimitiveKind.convert_of_convert converts
      · cases scalar.symm.trans sequence
  | null structured unchanged =>
      subst unchanged
      rcases conversionOf_later steady with equal | ⟨item, -, none⟩
      · rw [equal]
        cases conversion : ((Action.conversionOf id).run store).1 with
        | scalar codec => exact absurd conversion (structured codec)
        | record | sequence => rfl
      · rw [none]
        rfl
  | @map entries converted field? record entriesRun =>
      have recalls := recalls_of_conversionOf record
      have asked := (steadies_conversionOf id).run later
      have entriesSteady := steady_of_run (steadies_convertEntries recalls entries) entriesRun
      have again := entriesStand entries rfl field? recalls _ after converted _ entriesRun
        (steady.trans asked)
      rcases conversionOf_later (entriesSteady.trans steady) with equal | ⟨item, sequence, -⟩
      · rw [equal, record, convertBy, run_bind_ok (run_eq_ok again)]
        rfl
      · cases record.symm.trans sequence
  | @list items converted item sequence itemsRun =>
      rcases items_later sequence itemsRun (itemsStand items rfl item) steady with
        ⟨laterItem, laterSequence, again⟩
      rw [laterSequence, convertBy, run_bind_ok (run_eq_ok again)]
      rfl
  | @array items converted item sequence itemsRun =>
      rcases items_later sequence itemsRun (itemsStand items rfl item) steady with
        ⟨laterItem, laterSequence, again⟩
      rw [laterSequence, convertBy, run_bind_ok (run_eq_ok again)]
      rfl

mutual

theorem stands_convert : (value : Value) → (id : TypeId) →
    Stands (convert value id) (convert · id)
  | .map entries, id => by
      refine stands_convert_of id ?_ fun _ none => nomatch none
      rintro _ ⟨⟩ field? recalls
      exact stands_convertEntries entries recalls
  | .list items, id | .array items, id => by
      refine stands_convert_of id (fun _ other => nomatch other) ?_
      rintro _ ⟨⟩ item
      exact stands_convertItems items item
  | .null, id | .boolean _, id | .long _, id | .double _, id | .string _, id | .date _, id
  | .binary _, id => stands_convert_of id (fun _ other => nomatch other) fun _ none => nomatch none

theorem stands_convertEntries {field? : String → Action (Option Field)} :
    (entries : List (String × Value)) → Recalls field? →
      Stands (convertEntries entries field?) (convertEntries · field?)
  | [], _ => by
      intro store after answer later run _
      cases run
      rfl
  | (_, entry) :: rest, recalls =>
      stands_entries_cons recalls (stands_convert entry) (stands_convertEntries rest recalls)

theorem stands_convertItems : (items : List Value) → (item : Option TypeId) →
    Stands (convertItems items item) (convertItems · item)
  | [], _ => by
      intro store after answer later run _
      cases run
      rfl
  | value :: rest, item => stands_items_cons (stands_convert value) (stands_convertItems rest item)

end

/-! ## Shapes -/

/-- What a part becomes in the course of a conversion that began in a store. -/
def BecomesUnder (store : Store) (valueType : Option TypeId) (given answer : Value) : Prop :=
  ∃ middle after, store.Consulted middle ∧
    (convertUnder valueType given).run.run middle = (.ok answer, after)

theorem becomes_convertItems {item : Option TypeId} {items converted : List Value}
    (steady : store.Consulted later)
    (run : (convertItems items item).run.run later = (.ok converted, after)) :
    List.Forall₂ (BecomesUnder store item) items converted := by
  induction items generalizing later converted with
  | nil =>
      cases run
      exact .nil
  | cons value rest induction =>
      rw [convertItems_cons] at run
      rcases ok_of_run_bind run with ⟨first, middle, firstRun, run⟩
      rcases ok_of_run_bind run with ⟨others, last, restRun, run⟩
      cases run
      have firstSteady := steady_of_run (steadies_convertUnder item value) firstRun
      exact .cons ⟨later, middle, steady, firstRun⟩
        (induction (steady.trans firstSteady.consulted) restRun)

theorem keys_convertEntries {entries converted : List (String × Value)}
    (run : (convertEntries entries field?).run.run store = (.ok converted, after)) :
    converted.map Prod.fst = entries.map Prod.fst := by
  induction entries generalizing store converted with
  | nil =>
      cases run
      rfl
  | cons entry rest induction =>
      rw [convertEntries_cons] at run
      rcases ok_of_run_bind run with ⟨valueType, _, -, run⟩
      rcases ok_of_run_bind run with ⟨first, _, -, run⟩
      rcases ok_of_run_bind run with ⟨others, _, restRun, run⟩
      cases run
      rw [List.map_cons, List.map_cons, induction restRun]

theorem conversionOf_record (structured : (store.complexAt? id).isSome = true ∨
    (store.compositeAt? id).isSome = true) :
    ∃ field?, ((Action.conversionOf id).run store).1 = .record field? := by
  rcases structured with isSome | isSome
  · rcases Option.isSome_iff_exists.mp isSome with ⟨complex, found⟩
    exact ⟨_, congrArg Prod.fst (Action.run_conversionOf_complex found)⟩
  · rcases Option.isSome_iff_exists.mp isSome with ⟨composite, found⟩
    exact ⟨_, congrArg Prod.fst (Action.run_conversionOf_composite found)⟩

theorem run_conversionOf_list {list : ListType}
    (found : (store.type? id).bind DocumentType.list? = some list) :
    (Action.conversionOf id).run store =
      (.sequence (store.resolve list.item.valueType), store) := by
  rcases Option.bind_eq_some_iff.mp found with ⟨⟨name, base, flags, kind⟩, typeFound, is⟩
  unfold Action.conversionOf
  rw [Action.run_bind, Action.run_type?, typeFound]
  cases kind <;> cases is
  rfl

/-- Null is converted to null, and whatever a type converts a value to, it converts to itself
in the state that it leaves and after any further conversions. A map under a complex type or a
composite becomes a map with the same keys. A list or an array under a list type becomes one
of the same kind, and its items are converted one by one. -/
theorem convert_stands (store : Store) (id : TypeId) :
    ((convert .null id).run.run store).1 = .ok .null ∧
    ∀ given answer after, (convert given id).run.run store = (.ok answer, after) →
      ((convert answer id).run.run after).1 = .ok answer ∧
      (∀ others : List (Value × TypeId), ((convert answer id).run.run (others.foldl
        (fun store other => ((convert other.1 other.2).run.run store).2) after)).1 = .ok answer) ∧
      ((store.complexAt? id).isSome = true ∨ (store.compositeAt? id).isSome = true →
        ∀ entries, given = .map entries → ∃ converted, answer = .map converted ∧
          converted.map Prod.fst = entries.map Prod.fst) ∧
      ∀ list, (store.type? id).bind DocumentType.list? = some list →
        let becomes := BecomesUnder store (store.resolve list.item.valueType)
        (∀ items, given = .list items → ∃ converted, answer = .list converted ∧
          converted.length = items.length ∧ List.Forall₂ becomes items converted) ∧
        ∀ items, given = .array items → ∃ converted, answer = .array converted ∧
          converted.length = items.length ∧ List.Forall₂ becomes items converted := by
  refine ⟨?_, fun given answer after run => ⟨?_, fun others => ?_, ?_, ?_⟩⟩
  · rw [run_convert]
    rcases ((Action.conversionOf id).run store).1 with (_ | codec) | _ | _ <;> rfl
  · exact stands_convert given id store after answer after run (.refl after)
  · have steady : after.Steady (others.foldl
        (fun store other => ((convert other.1 other.2).run.run store).2) after) := by
      induction others using List.reverseRecOn with
      | nil => exact .refl after
      | append_singleton others other induction =>
          rw [List.foldl_concat]
          exact induction.trans ((steadies_convert other.1 other.2).run _)
    exact stands_convert given id store after answer _ run steady
  · rintro structured entries rfl
    rcases conversionOf_record structured with ⟨field?, record⟩
    rw [run_convert] at run
    cases converts_of_run run with
    | kept scalar | scalar scalar => cases record.symm.trans scalar
    | map _ entriesRun => exact ⟨_, rfl, keys_convertEntries entriesRun⟩
  · intro list found
    rw [run_convert, run_conversionOf_list found] at run
    refine ⟨?_, ?_⟩
    · rintro items rfl
      cases converts_of_run run with
      | kept scalar | scalar scalar => cases scalar
      | list sequence itemsRun =>
          cases sequence
          have becomes := becomes_convertItems (.refl store) itemsRun
          exact ⟨_, rfl, becomes.length_eq.symm, becomes⟩
    · rintro items rfl
      cases converts_of_run run with
      | kept scalar | scalar scalar => cases scalar
      | array sequence itemsRun =>
          cases sequence
          have becomes := becomes_convertItems (.refl store) itemsRun
          exact ⟨_, rfl, becomes.length_eq.symm, becomes⟩

/-- A part of a list of parts of its own kind, read by a composite of one schema. -/
theorem convert_stands_part :
    let named (schema name : String) : TypeRef := .named Store.initial.registryId ⟨schema, name⟩
    let part : Blueprint := {
      name := ⟨"dc", "part"⟩
      body := .complex ⟨"", ""⟩ none [
        { name := "size", valueType := named primitiveSchema "long" },
        { name := "parts", valueType := named "dc" "parts" },
        { name := "rest", valueType := named "dc" "nothing" }] }
    let parts : Blueprint := {
      name := ⟨"dc", "parts"⟩
      body := .list (named "dc" "part") (some "part") none 0 0 }
    let store := Store.initial.after [.operate (.build part), .operate (.registerSchema ⟨8⟩),
      .operate (.registerType ⟨8⟩), .operate (.build parts), .operate (.registerType ⟨9⟩),
      .operate (.registerFacet "all" ["part"])]
    let given : Value := .map [("size", .string " 7 "), ("rest", .boolean true),
      ("parts", .list [.map [("size", .double (Binary64.ofInt 2)), ("parts", .null)], .null])]
    ∃ answer after, (convert given ⟨10⟩).run.run store = (.ok answer, after) ∧
      (answer == .map [("size", .long 7), ("rest", .boolean true),
        ("parts", .list [.map [("size", .long 2), ("parts", .null)], .null])]) = true ∧
      ((convert answer ⟨10⟩).run.run after).1 = .ok answer := by
  intro named part parts store given
  have converted : (((convert given ⟨10⟩).run.run store).1.toOption.any fun answer =>
      answer == .map [("size", .long 7), ("rest", .boolean true),
        ("parts", .list [.map [("size", .long 2), ("parts", .null)], .null])]) = true := by
    decide +kernel
  rcases run : (convert given ⟨10⟩).run.run store with ⟨outcome, after⟩
  rw [run] at converted
  cases outcome with
  | error failure => cases converted
  | ok answer =>
      exact ⟨answer, after, rfl, converted,
        ((convert_stands store ⟨10⟩).2 given answer after run).1⟩

end Attempt
end DocumentTypes
