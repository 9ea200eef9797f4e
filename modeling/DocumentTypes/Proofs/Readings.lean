import DocumentTypes.Proofs.Reconversion

/-! # Readings

The ways to read a composite. Each of them takes the present snapshot and draws its answer
from that, so that no two parts of an answer come from different mergers. -/

namespace DocumentTypes

inductive Reading
  | snapshot
  | field (name : String)
  | hasField (name : String)
  | fields
  | hasFields
  | schemas
  | schemaByQualifier (qualifier : String)
  | instantiate
  | convert (value : Value)

namespace Reading

inductive Answer
  | snapshot (snapshot : Snapshot)
  | field (field : Option Field)
  | flag (flag : Bool)
  | fields (fields : List Field)
  | schemas (schemas : List TypeId)
  | schema (schema : Option TypeId)
  | value (outcome : Except Failure Value)

def ask (id : TypeId) : Reading → Action Answer
  | snapshot => return .snapshot (← Action.snapshotOf id)
  | field name => return .field (← Action.lookUp id name)
  | hasField name => return .flag (← Action.lookUp id name).isSome
  | fields => return .fields (← Action.fieldsOf id)
  | hasFields => return .flag (← Action.hasFields id)
  | schemas => return .schemas (← Action.snapshotOf id).schemas
  | schemaByQualifier qualifier =>
    return .schema ((← Action.snapshotOf id).qualifiers.get? qualifier)
  | instantiate => return .value (.ok (← Action.instantiate id))
  | convert value => return .value (← (Attempt.convert value id).run)

def drawn (snapshot : Snapshot) : Reading → Action Answer
  | .snapshot => return .snapshot snapshot
  | field name => return .field (snapshot.fieldsByName.get? name)
  | hasField name => return .flag (snapshot.fieldsByName.get? name).isSome
  | fields => return .fields snapshot.fields
  | hasFields => return .flag !snapshot.fields.isEmpty
  | schemas => return .schemas snapshot.schemas
  | schemaByQualifier qualifier => return .schema (snapshot.qualifiers.get? qualifier)
  | instantiate => do
    let depth := (← get).types.size
    return .value (.ok
      (← Action.instantiateFields (Action.instantiateWithin depth) snapshot.fields))
  | convert value => return .value (← (Attempt.convertBy
      (.record fun name => return snapshot.fieldsByName.get? name) value).run)

variable {store : Store} {id : TypeId} {composite : CompositeType}

/-- Every reading takes the present snapshot and draws its answer from it. -/
theorem run_ask (found : store.compositeAt? id = some composite) (reading : Reading) :
    (reading.ask id).run store =
      (reading.drawn ((Action.snapshotOf id).run store).1).run
        ((Action.snapshotOf id).run store).2 := by
  have kind := Store.kind_of_compositeAt? found
  have fieldsRun : (Action.fieldsOf id).run store = (((Action.snapshotOf id).run store).1.fields,
      ((Action.snapshotOf id).run store).2) := by
    rw [Action.run_snapshotOf found, Action.fieldsOf, Action.run_bind, Action.run_get]
    unfold Action.fieldsWithin
    simp only [Action.run_bind, Action.run_type?, kind]
    split <;> rfl
  have lookUpRun (name : String) : (Action.lookUp id name).run store =
      (((Action.snapshotOf id).run store).1.fieldsByName.get? name,
        ((Action.snapshotOf id).run store).2) := by
    simp only [Action.lookUp, Action.run_bind, Action.run_type?, kind, Action.run_pure]
  cases reading with
  | snapshot | schemas | schemaByQualifier => rfl
  | field name | hasField name =>
      simp only [ask, drawn, Action.run_bind, lookUpRun, Action.run_pure]
  | fields => simp only [ask, drawn, Action.run_bind, fieldsRun, Action.run_pure]
  | hasFields =>
      simp only [ask, drawn, Action.hasFields, Action.run_bind, fieldsRun, Action.run_pure]
  | instantiate =>
      rcases Store.type_of_compositeAt? found with ⟨type, typeFound, kind⟩
      have size := ((Action.steadies_snapshotOf id).run store).loosened.size_eq
      simp only [ask, drawn, Action.instantiate, Action.run_bind, Action.run_get,
        Action.instantiateWithin, Action.run_type?, typeFound, kind, size]
  | convert value =>
      have conversion : (Action.conversionOf id).run store =
          (.record fun name => return ((Action.snapshotOf id).run store).1.fieldsByName.get? name,
            ((Action.snapshotOf id).run store).2) := by
        simp only [Action.conversionOf, Action.run_bind, Action.run_type?, kind, Action.run_pure]
      have converted := Attempt.run_convert value id store
      rw [conversion] at converted
      simp only [ask, drawn, Action.run_bind, converted]

theorem preserves_drawn {Invariant : Store → Prop} (kept : KeptByConsulting Invariant)
    (snapshot : Snapshot) (reading : Reading) :
    Action.Preserves Invariant (reading.drawn snapshot) := by
  cases reading with
  | snapshot | field | hasField | fields | hasFields | schemas | schemaByQualifier => exact .pure _
  | instantiate =>
      refine .bind (fun _ holds => holds) fun store => .bind ?_ fun _ => .pure _
      exact kept.instantiateFields (kept.instantiateWithin _) _
  | convert value =>
      refine .bind ?_ fun _ => .pure _
      cases value with
      | map entries =>
          have given := Attempt.preserves_convertEntries kept.keptByLooking entries
            fun name => .pure (snapshot.fieldsByName.get? name)
          exact .attempt_bind given fun _ => .pure _
      | null | boolean | long | double | string | date | binary | list | array => exact .pure _

theorem steadies_drawn (snapshot : Snapshot) (reading : Reading) :
    Action.Steadies (reading.drawn snapshot) :=
  fun start => preserves_drawn (Action.keptByConsulting_steady start) snapshot reading

theorem compositeAt?_ask (found : store.compositeAt? id = some composite) (reading : Reading) :
    ∃ shown, ((reading.ask id).run store).2.compositeAt? id = some shown ∧
      shown = { composite with merged := ((Action.snapshotOf id).run store).1 } ∧
      shown.isCurrent = true := by
  rcases Action.compositeAt?_snapshotOf found with ⟨shown, shownFound, equal, now⟩
  rw [reading.run_ask found]
  exact ⟨shown, ((steadies_drawn _ reading).run _).current id shown shownFound now, equal, now⟩

end Reading

end DocumentTypes
