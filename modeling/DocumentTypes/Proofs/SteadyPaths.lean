import DocumentTypes.Proofs.ElementPaths
import DocumentTypes.Proofs.Excursions

/-! # Steady paths

Back from an excursion, a path leads to the field to which it led before, if on its way it
comes only by types that show the same and by references that mean the same, whatever was
read. Whether it does can be told before. -/

namespace DocumentTypes

namespace Store

/-! ## Paths that lead to the same field -/

section Steadily

variable (before during : Store)

def stepsSteadily (field : Field) (segment : String) : Bool :=
  before.leadsSteadily during field.valueType &&
    (before.resolve field.valueType).all (before.showsSteadily during) &&
    (Path.isListIndex segment ||
      (before.listOf? field).all fun list => before.leadsSteadily during list.item.valueType)

def walksSteadily : List String → Field → Bool
  | [], _ => true
  | segment :: rest, field =>
    before.stepsSteadily during field segment &&
      ((Action.step field segment rest.isEmpty).run before).1.all (walksSteadily rest)

def leadsSteadilyTo (path : String) : Bool :=
  match Path.segments (Path.canonical path) with
  | [] => true
  | first :: rest => (before.topLevel? first).all (before.walksSteadily during rest)

def leadsSteadilyIn (id : TypeId) (path : String) : Bool :=
  match Path.segments (Path.canonical path) with
  | [] => true
  | first :: rest => before.showsSteadily during id &&
      ((Action.lookUp id first).run before).1.all (before.walksSteadily during rest)

end Steadily

variable {before during store left right : Store} {id : TypeId} {composite : CompositeType}

namespace Traceless

/-! ## What types show -/

theorem fields_facet (traceless : before.Traceless during before store)
    (found : before.compositeAt? id = some composite)
    (facet : id ∈ before.registry.facets.values) :
    ((Action.snapshotOf id).run store).1.fields =
        (before.presentSchemas composite.references.keys).flatMap before.fieldsAt ∧
      ((Action.fieldsOf id).run store).1 =
        (before.presentSchemas composite.references.keys).flatMap before.fieldsAt := by
  rcases traceless.plain.compositeAt? found with ⟨requested, merged, later⟩
  have member : id ∈ store.registry.facets.values := traceless.tables.facets_eq ▸ facet
  have shows := traceless.facets.showsSchemas later member
  have schemas : store.presentSchemas composite.references.keys =
      before.presentSchemas composite.references.keys :=
    presentSchemas_congr fun name _ => by rw [traceless.tables.schemas_eq]
  have fields : store.fieldsAt = before.fieldsAt := funext traceless.plain.fieldsAt_eq
  rw [← schemas, ← fields]
  exact ⟨((Action.snapshotOf_shows traceless.facets.complex later shows).fields_eq :),
    (Action.fieldsOf_shows traceless.facets.complex later shows :)⟩

theorem exists_shown (start : before.Traceless during before before)
    (found : before.compositeAt? id = some composite)
    (steady : before.showsSteadily during id = true) :
    ∃ fields, ∀ store, before.Traceless during before store →
      ((Action.snapshotOf id).run store).1.fields = fields := by
  by_cases facet : id ∈ before.registry.facets.values
  · exact ⟨_, fun store traceless => (traceless.fields_facet found facet).1⟩
  · cases now : composite.isCurrent with
    | true =>
        refine ⟨composite.merged.fields, fun store traceless => ?_⟩
        rw [Action.run_snapshotOf (traceless.current id composite found facet now), if_pos now]
    | false =>
        have merges : composite.references.values.all (before.mergesSteadily during) = true := by
          simpa [showsSteadily, found, facet, now] using steady
        refine ⟨(composite.references.values.filterMap before.resolve).flatMap before.settledFields,
          fun store traceless => ?_⟩
        rcases traceless.plain.compositeAt? found with ⟨requested, merged, later⟩
        rw [Action.run_snapshotOf later]
        split
        next laterNow => exact traceless.merged id composite found facet now merges _ later laterNow
        next =>
          exact start.fields_merge traceless { composite with requested, merged } merges _ id

theorem showsSteadily_of_complexAt? (isComplex : (before.complexAt? id).isSome = true) :
    before.showsSteadily during id = true := by
  rcases Option.isSome_iff_exists.mp isComplex with ⟨complex, found⟩
  rw [showsSteadily, compositeAt?_of_complexAt? found, Option.all_none]

theorem showsSteadily_of_facet (facet : id ∈ before.registry.facets.values) :
    before.showsSteadily during id = true := by
  unfold showsSteadily
  cases before.compositeAt? id with
  | none => rfl
  | some composite =>
      rw [Option.all_some, List.contains_iff_mem.mpr facet, Bool.true_or, Bool.true_or]

theorem lookUp_congr (start : before.Traceless during before before)
    (first : before.Traceless during before left) (second : before.Traceless during before right)
    (steady : before.showsSteadily during id = true) (name : String) :
    ((Action.lookUp id name).run left).1 = ((Action.lookUp id name).run right).1 := by
  cases complexFound : before.complexAt? id with
  | some complex =>
      rcases first.plain.complexAt? complexFound with ⟨leftLookups, leftFound⟩
      rcases second.plain.complexAt? complexFound with ⟨rightLookups, rightFound⟩
      rw [Action.run_lookUp_complex leftFound, Action.run_lookUp_complex rightFound,
        ComplexType.lookUp_snd (first.caches.lookups id _ leftFound),
        ComplexType.lookUp_snd (second.caches.lookups id _ rightFound)]
      rfl
  | none =>
      cases found : before.compositeAt? id with
      | none =>
          rw [Action.run_lookUp_plain (first.plain.complexAt?_eq_none complexFound)
              (first.plain.compositeAt?_eq_none found),
            Action.run_lookUp_plain (second.plain.complexAt?_eq_none complexFound)
              (second.plain.compositeAt?_eq_none found)]
      | some composite =>
          rcases first.plain.compositeAt? found with ⟨_, _, leftFound⟩
          rcases second.plain.compositeAt? found with ⟨_, _, rightFound⟩
          rw [Action.lookUp_composite leftFound, Action.lookUp_composite rightFound]
          rcases exists_shown start found steady with ⟨fields, shows⟩
          rw [Action.indexed_shown first.indexed id name,
            Action.indexed_shown second.indexed id name, shows left first, shows right second]

theorem fieldsOf_congr (start : before.Traceless during before before)
    (first : before.Traceless during before left) (second : before.Traceless during before right)
    (facet : id ∈ before.registry.facets.values) :
    ((Action.fieldsOf id).run left).1 = ((Action.fieldsOf id).run right).1 := by
  rcases start.facets.facet id facet with ⟨composite, found, -⟩
  rw [(first.fields_facet found facet).2, (second.fields_facet found facet).2]

/-! ## Ways -/

theorem listOf?_eq (start : before.Traceless during before before)
    (traceless : before.Traceless during before store) {field : Field}
    (steady : before.leadsSteadily during field.valueType = true) :
    store.listOf? field = before.listOf? field := by
  rw [listOf?, listOf?, traceless.resolve_congr start steady]
  cases before.resolve field.valueType with
  | none => rfl
  | some id => exact traceless.plain.list?_eq id

theorem step_congr (start : before.Traceless during before before)
    (first : before.Traceless during before left) (second : before.Traceless during before right)
    {field : Field} {segment : String}
    (steady : before.stepsSteadily during field segment = true) (isLast : Bool) :
    ((Action.step field segment isLast).run left).1 =
      ((Action.step field segment isLast).run right).1 := by
  simp only [stepsSteadily, Bool.and_eq_true] at steady
  rcases steady with ⟨⟨leads, shows⟩, items⟩
  have leftMeans := first.resolve_congr start leads
  have rightMeans := second.resolve_congr start leads
  have leftHolds := start.listOf?_eq first leads
  have rightHolds := start.listOf?_eq second leads
  cases resolved : before.resolve field.valueType with
  | none =>
      rw [Action.run_step_unresolved (leftMeans.trans resolved),
        Action.run_step_unresolved (rightMeans.trans resolved)]
  | some id =>
      cases holds : before.listOf? field with
      | none =>
          rw [resolved] at shows
          rw [Action.run_step_lookUp (leftMeans.trans resolved) (leftHolds.trans holds),
            Action.run_step_lookUp (rightMeans.trans resolved) (rightHolds.trans holds)]
          exact start.lookUp_congr first second shows segment
      | some list =>
          cases read : Path.isListIndex segment with
          | true =>
              rw [Action.run_step_index (leftHolds.trans holds) read,
                Action.run_step_index (rightHolds.trans holds) read]
          | false =>
              rw [read, holds, Bool.false_or, Option.all_some] at items
              rw [Action.run_step_name (leftHolds.trans holds) read,
                Action.run_step_name (rightHolds.trans holds) read,
                first.resolve_congr second items]
              cases right.resolve list.item.valueType with
              | none => rfl
              | some item =>
                  dsimp only
                  rw [first.plain.isSome_complexAt?, second.plain.isSome_complexAt?]
                  split
                  next isComplex =>
                    exact start.lookUp_congr first second (showsSteadily_of_complexAt? isComplex)
                      segment
                  next => rfl

/-- The induction is on the segments: as long as the steps lead to the same fields, reading
leaves no trace in either store. -/
theorem walk_congr (start : before.Traceless during before before) {segments : List String}
    {field : Field} (first : before.Traceless during before left)
    (second : before.Traceless during before right)
    (steady : before.walksSteadily during segments field = true) :
    ((Action.walk field segments).run left).1 = ((Action.walk field segments).run right).1 := by
  induction segments generalizing field left right with
  | nil => rfl
  | cons segment rest induction =>
      rw [walksSteadily, Bool.and_eq_true] at steady
      have keeps : Action.Preserves (before.Traceless during before)
          (Action.step field segment rest.isEmpty) :=
        (Action.keptByReads_traceless start).step field segment rest.isEmpty
      have leftAnswer := start.step_congr first start steady.1 rest.isEmpty
      have rightAnswer := start.step_congr second start steady.1 rest.isEmpty
      simp only [Action.walk, Action.run_bind, leftAnswer, rightAnswer]
      cases answer : ((Action.step field segment rest.isEmpty).run before).1 with
      | none => rfl
      | some next =>
          rw [answer] at steady
          exact induction (keeps left first) (keeps right second) steady.2

theorem topLevel?_congr (first : before.Traceless during before left)
    (second : before.Traceless during before right) (name : String) :
    left.topLevel? name = right.topLevel? name := by
  unfold topLevel?
  dsimp only
  rw [first.tables.schemaFor?_eq, second.tables.schemaFor?_eq]
  congr 1
  funext schema
  rw [first.plain.find?_eq, second.plain.find?_eq]

theorem registeredField_congr (start : before.Traceless during before before)
    (first : before.Traceless during before left) (second : before.Traceless during before right)
    {path : String} (steady : before.leadsSteadilyTo during path = true) :
    ((Action.registeredField path).run left).1 = ((Action.registeredField path).run right).1 := by
  unfold leadsSteadilyTo at steady
  unfold Action.registeredField
  split
  next => rfl
  next name rest parts =>
    rw [parts] at steady
    dsimp only at steady
    have keeps : Action.Preserves (before.Traceless during before) (Action.topLevelField name) :=
      (Action.keptByReads_traceless start).topLevelField name
    have leftAnswer := (Action.topLevelField_eq first.caches name).1
    have rightAnswer := (Action.topLevelField_eq second.caches name).1
    rw [first.topLevel?_congr start] at leftAnswer
    rw [second.topLevel?_congr start] at rightAnswer
    simp only [Action.run_bind, leftAnswer, rightAnswer]
    cases answer : before.topLevel? name with
    | none => rfl
    | some field =>
        rw [answer] at steady
        exact start.walk_congr (keeps left first) (keeps right second) steady

theorem fieldAt_congr (start : before.Traceless during before before)
    (first : before.Traceless during before left) (second : before.Traceless during before right)
    {path : String} (steady : before.leadsSteadilyIn during id path = true) :
    ((Action.fieldAt id path).run left).1 = ((Action.fieldAt id path).run right).1 := by
  unfold leadsSteadilyIn at steady
  unfold Action.fieldAt
  split
  next => rfl
  next name rest parts =>
    rw [parts] at steady
    simp only [Bool.and_eq_true] at steady
    have keeps : Action.Preserves (before.Traceless during before) (Action.lookUp id name) :=
      (Action.keptByReads_traceless start).lookUp id name
    have leftAnswer := start.lookUp_congr first start steady.1 name
    have rightAnswer := start.lookUp_congr second start steady.1 name
    simp only [Action.run_bind, leftAnswer, rightAnswer]
    cases answer : ((Action.lookUp id name).run before).1 with
    | none => rfl
    | some field =>
        rw [answer] at steady
        exact start.walk_congr (keeps left first) (keeps right second) steady.2

end Traceless
end Store
end DocumentTypes
