import DocumentTypes.Proofs.CarryOut
import DocumentTypes.Proofs.Simulation

/-! # Failed loads

Loading a document registers all of it or nothing: everything that can fail is done
before anything is registered, and what is done until then leaves notices only. -/

namespace DocumentTypes

namespace Store

variable {before after store : Store}

/-! ## Stores that differ in their notices -/

theorem likeness_noted : Likeness Noted where
  size_eq := by
    rintro left _ ⟨notices, rfl⟩
    rfl
  resolve_eq := by
    rintro left _ ⟨notices, rfl⟩ reference
    exact (resolve_notices left notices reference).symm
  kind := by
    rintro left _ ⟨notices, rfl⟩ id
    exact .same _
  noted := by
    rintro left _ ⟨notices, rfl⟩ notice
    exact ⟨notice :: notices, rfl⟩
  merged := by
    rintro left _ ⟨notices, rfl⟩ id old composite - -
    exact ⟨notices, setKind_notices left id _ notices⟩
  looked := by
    rintro left _ ⟨notices, rfl⟩ id complex other name leftFound rightFound
    cases leftFound.symm.trans rightFound
    exact ⟨rfl, notices, setKind_notices left id _ notices⟩

/-- Nothing that can be asked of a registry or of a type tells two stores apart. -/
structure Indistinct (before after : Store) : Prop where
  types : after.types = before.types
  registry : after.registry = before.registry
  registryId : after.registryId = before.registryId
  holdings : after.holdings = before.holdings
  resolve : ∀ reference, after.resolve reference = before.resolve reference
  registeredField : ∀ path, ((Action.registeredField path).run after).1 =
    ((Action.registeredField path).run before).1
  snapshotOf : ∀ id, ((Action.snapshotOf id).run after).1 = ((Action.snapshotOf id).run before).1
  fieldsOf : ∀ id, ((Action.fieldsOf id).run after).1 = ((Action.fieldsOf id).run before).1
  lookUp : ∀ id name, ((Action.lookUp id name).run after).1 =
    ((Action.lookUp id name).run before).1

end Store

namespace Action

theorem respects_topLevelField_noted (name : String) :
    Respects Store.Noted (topLevelField name) := by
  rintro left _ ⟨notices, rfl⟩
  simp only [topLevelField, run_bind, run_get]
  cases left.registry.fieldLookups.get? name with
  | some field => exact ⟨rfl, notices, rfl⟩
  | none =>
      simp only [run_bind, run_get]
      cases left.registry.schemaFor? (QualifiedName.parse name "").qualifier with
      | none => exact ⟨rfl, notices, rfl⟩
      | some schema =>
          have looked := respects_lookUp Store.likeness_noted schema
            (QualifiedName.parse name "").localName left { left with notices } ⟨notices, rfl⟩
          simp only [run_bind]
          rw [looked.1]
          cases ((lookUp schema (QualifiedName.parse name "").localName).run
            { left with notices }).1 with
          | none => exact ⟨rfl, looked.2⟩
          | some field =>
              rcases looked.2 with ⟨later, same⟩
              exact ⟨rfl, later, congrArg (fun store : Store => store.setRegistry
                { store.registry with
                  fieldLookups := store.registry.fieldLookups.put name field }) same⟩

theorem respects_registeredField_noted (path : String) :
    Respects Store.Noted (registeredField path) := by
  unfold registeredField
  generalize Path.segments (Path.canonical path) = segments
  cases segments with
  | nil => exact .pure _
  | cons first rest =>
      refine .bind (respects_topLevelField_noted first) fun field => ?_
      cases field with
      | none => exact .pure _
      | some field => exact respects_walk Store.likeness_noted rest field

theorem respects_fieldsOf_noted (id : TypeId) : Respects Store.Noted (fieldsOf id) := by
  rintro left _ ⟨notices, rfl⟩
  exact respects_fieldsWithin Store.likeness_noted _ id left _ ⟨notices, rfl⟩

end Action

/-- Notices are all that could tell the stores apart, and no answer depends on them. -/
theorem Store.Noted.indistinct {before after : Store} (noted : before.Noted after) :
    before.Indistinct after := by
  have resolve := fun reference => (likeness_noted.resolve_eq noted reference).symm
  have registeredField := fun path =>
    (Action.respects_registeredField_noted path before after noted).1.symm
  have snapshotOf := fun id =>
    (Action.respects_snapshotOf likeness_noted id before after noted).1.symm
  have fieldsOf := fun id => (Action.respects_fieldsOf_noted id before after noted).1.symm
  have lookUp := fun id name =>
    (Action.respects_lookUp likeness_noted id name before after noted).1.symm
  rcases noted with ⟨notices, rfl⟩
  exact ⟨rfl, rfl, rfl, rfl, resolve, registeredField, snapshotOf, fieldsOf, lookUp⟩

/-! ## Loading -/

namespace Attempt

/-- Planning registers nothing, and what it has planned can be carried out. -/
theorem plan_then_carryOut (document : SchemaDocument) (store : Store) :
    store.Noted ((Action.plan document).run.run store).2 ∧
    ∀ plan, ((Action.plan document).run.run store).1 = .ok plan →
      ((carryOut plan).run.run ((Action.plan document).run.run store).2).1 = .ok () := by
  refine ⟨Action.plan_preserves_noted store document store (.refl store), fun plan planned => ?_⟩
  have sound := Action.plan_sound (Attempt.run_eq_ok planned)
  rcases carryOut_grows sound ((Action.plan document).run.run store).2 with ⟨after, run, -⟩
  rw [run]

theorem load_error {document : SchemaDocument} {store after : Store} {failure : Failure}
    (failed : (load document).run.run store = (.error failure, after)) : store.Noted after := by
  rcases plan_then_carryOut document store with ⟨noted, succeeds⟩
  unfold load at failed
  rw [run_bind] at failed
  rcases planned : (Action.plan document).run.run store with ⟨outcome, middle⟩
  rw [planned] at failed noted succeeds
  cases outcome with
  | error _ =>
      cases failed
      exact noted
  | ok plan =>
      have carried := succeeds plan rfl
      dsimp only at failed carried
      rw [failed] at carried
      cases carried

theorem loadFile_error {content : Option (List UInt8)} {store after : Store} {failure : Failure}
    (failed : (loadFile content).run.run store = (.error failure, after)) : store.Noted after := by
  unfold loadFile at failed
  cases content with
  | none =>
      cases failed
      exact .refl store
  | some bytes =>
      dsimp only at failed
      split at failed
      next text _ =>
        unfold loadText at failed
        rw [run_bind, run_liftExcept] at failed
        cases read : SchemaDocument.ofText text with
        | error _ =>
            rw [read] at failed
            cases failed
            exact .refl store
        | ok document =>
            rw [read] at failed
            exact load_error failed
      next =>
        cases failed
        exact .refl store

/-- Loading is all or nothing: a load that fails leaves no trace, of a document as of a
file, and no failure is possible once anything has been registered. -/
theorem load_all_or_nothing (store : Store) :
    (∀ document failure after, (load document).run.run store = (.error failure, after) →
      store.Indistinct after) ∧
    (∀ content failure after, (loadFile content).run.run store = (.error failure, after) →
      store.Indistinct after) ∧
    ∀ document plan planned, (Action.plan document).run.run store = (.ok plan, planned) →
      store.Indistinct planned ∧ ((carryOut plan).run.run planned).1 = .ok () := by
  refine ⟨fun _ _ _ failed => (load_error failed).indistinct,
    fun _ _ _ failed => (loadFile_error failed).indistinct, fun document plan after planned => ?_⟩
  rcases plan_then_carryOut document store with ⟨noted, succeeds⟩
  rw [planned] at noted succeeds
  exact ⟨noted.indistinct, succeeds plan rfl⟩

/-- A field of an unknown type in the second schema, after the first has been planned. -/
theorem load_unknown_type :
    let document : SchemaDocument := { schemas := [
      ("dc", { fields := [("title", { typeName := some "string" })] }),
      ("note", { fields := [("body", { typeName := some "markdown" })] })] }
    ((load document).run.run .initial).1 = .error (.unknownBareType "note" "markdown") ∧
      ((load document).run.run .initial).2.notices = [.schemaRead "dc" 0 1] ∧
      Store.initial.Indistinct ((load document).run.run .initial).2 := by
  intro document
  have failed : ((load document).run.run .initial).1 =
      .error (.unknownBareType "note" "markdown") := by decide +kernel
  have noticed : ((load document).run.run .initial).2.notices = [.schemaRead "dc" 0 1] := by
    decide +kernel
  exact ⟨failed, noticed, (load_all_or_nothing .initial).1 document _ _ (run_eq_error failed)⟩

end Attempt
end DocumentTypes
