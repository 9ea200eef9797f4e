import DocumentTypes.Proofs.Running
import DocumentTypes.Store.Conversion
import DocumentTypes.Store.Instance
import DocumentTypes.Store.Registration

/-! # What consulting keeps

To go along paths, and to read, write, convert and instantiate values, is to look fields up,
to read composites, to look for primitives and to give notice, again and again. So whatever
these four keep is kept by all of it. -/

namespace DocumentTypes

/-! ## Paths -/

namespace Action

variable {Invariant : Store → Prop} (kept : ∀ id name, Preserves Invariant (lookUp id name))

include kept

theorem preserves_step (field : Field) (segment : String) (isLast : Bool) :
    Preserves Invariant (step field segment isLast) := by
  refine .bind (.resolve _) fun valueType => ?_
  cases valueType with
  | none => exact .pure _
  | some valueType =>
      refine .bind (.type? _) fun type => ?_
      split
      next list _ =>
        split
        · exact .pure _
        · refine .bind (.resolve list.item.valueType) fun item => ?_
          cases item with
          | none => exact .pure _
          | some item =>
              refine .bind (.type? _) fun itemType => ?_
              split
              · exact kept _ _
              · split <;> exact .pure _
      · exact kept _ _
      · exact kept _ _
      · exact .pure _

theorem preserves_walk (segments : List String) (field : Field) :
    Preserves Invariant (walk field segments) := by
  induction segments generalizing field with
  | nil => exact .pure _
  | cons segment rest induction =>
      refine .bind (preserves_step kept _ _ _) fun next => ?_
      cases next with
      | none => exact .pure _
      | some next => exact induction next

theorem preserves_fieldAt (id : TypeId) (path : String) :
    Preserves Invariant (fieldAt id path) := by
  unfold fieldAt
  split
  · exact .pure _
  · refine .bind (kept _ _) fun field => ?_
    cases field with
    | none => exact .pure _
    | some field => exact preserves_walk kept _ _

theorem preserves_registeredField (first : ∀ name, Preserves Invariant (topLevelField name))
    (path : String) : Preserves Invariant (registeredField path) := by
  unfold registeredField
  split
  · exact .pure _
  · refine .bind (first _) fun field => ?_
    cases field with
    | none => exact .pure _
    | some field => exact preserves_walk kept _ _

end Action

namespace Attempt

open DocumentTypes.Action (Preserves)

theorem convert_eq (value : Value) (id : TypeId) :
    convert value id = (do
      match ← Action.conversionOf id with
      | .scalar none => return value
      | .scalar (some codec) => codec.convert value
      | .record field? =>
        match value with
        | .null => return .null
        | .map entries => return .map (← convertEntries entries field?)
        | other => throw (.expectedMap other.shape)
      | .sequence item =>
        match value with
        | .null => return .null
        | .list items => return .list (← convertItems items item)
        | .array items => return .array (← convertItems items item)
        | other => throw (.expectedList other.shape)) := by
  cases value <;> rfl

variable {Invariant : Store → Prop}

theorem preserves_typeUnder {field? : String → Action (Option Field)}
    (keeps : ∀ name, Preserves Invariant (field? name)) (key : String) :
    Preserves Invariant (typeUnder field? key).run := by
  refine .attempt_bind (keeps key) fun field => ?_
  cases field with
  | none => exact .pure _
  | some field => exact fun _ holds => holds

/-- What is kept when a type is asked how it converts, and when it looks for fields. -/
structure KeptByLooking (Invariant : Store → Prop) : Prop where
  conversionOf : ∀ id, Preserves Invariant (Action.conversionOf id)
  field : ∀ id store field?, ((Action.conversionOf id).run store).1 = .record field? →
    ∀ name, Preserves Invariant (field? name)

theorem preserves_convert_of (kept : KeptByLooking Invariant) {value : Value} (id : TypeId)
    (entries : ∀ entries field?, value = .map entries →
      (∀ name, Preserves Invariant (field? name)) →
      Preserves Invariant (convertEntries entries field?).run)
    (items : ∀ items item, value.asSequence? = some items →
      Preserves Invariant (convertItems items item).run) :
    Preserves Invariant (convert value id).run := by
  rw [convert_eq]
  refine .attempt_bind_answer (kept.conversionOf id) fun store => ?_
  cases conversion : ((Action.conversionOf id).run store).1 with
  | scalar codec => cases codec <;> exact fun _ holds => holds
  | record field? =>
      cases value with
      | map given =>
          have keeps := kept.field id store field? conversion
          exact .attempt_bind (entries given field? rfl keeps) fun _ => .pure _
      | null | boolean | long | double | string | date | binary | list | array =>
          exact fun _ holds => holds
  | sequence item =>
      cases value with
      | list given | array given =>
          exact .attempt_bind (items given item rfl) fun _ => .pure _
      | null | boolean | long | double | string | date | binary | map =>
          exact fun _ holds => holds

mutual

theorem preserves_convert (kept : KeptByLooking Invariant) :
    (value : Value) → (id : TypeId) → Preserves Invariant (convert value id).run
  | .map entries, id => by
      refine preserves_convert_of kept id ?_ fun _ _ none => nomatch none
      rintro _ field? ⟨⟩ keeps
      exact preserves_convertEntries kept entries keeps
  | .list items, id | .array items, id => by
      refine preserves_convert_of kept id (fun _ _ other => nomatch other) ?_
      rintro _ item ⟨⟩
      exact preserves_convertItems kept items item
  | .null, id | .boolean _, id | .long _, id | .double _, id | .string _, id | .date _, id
  | .binary _, id =>
      preserves_convert_of kept id (fun _ _ other => nomatch other) fun _ _ none => nomatch none

theorem preserves_convertEntries (kept : KeptByLooking Invariant)
    {field? : String → Action (Option Field)} :
    (entries : List (String × Value)) → (∀ name, Preserves Invariant (field? name)) →
      Preserves Invariant (convertEntries entries field?).run
  | [], _ => .pure _
  | (key, entry) :: rest, keeps => by
      have others := preserves_convertEntries kept rest keeps
      change Preserves Invariant (typeUnder field? key >>= _).run
      refine .attempt_bind (preserves_typeUnder keeps key) fun valueType => ?_
      cases valueType with
      | none => exact .attempt_bind (.pure _) fun _ => .attempt_bind others fun _ => .pure _
      | some valueType =>
          exact .attempt_bind (preserves_convert kept entry valueType) fun _ =>
            .attempt_bind others fun _ => .pure _

theorem preserves_convertItems (kept : KeptByLooking Invariant) :
    (items : List Value) → (item : Option TypeId) →
      Preserves Invariant (convertItems items item).run
  | [], _ => .pure _
  | _ :: rest, none =>
      .attempt_bind (.pure _) fun _ =>
        .attempt_bind (preserves_convertItems kept rest none) fun _ => .pure _
  | value :: rest, some item =>
      .attempt_bind (preserves_convert kept value item) fun _ =>
        .attempt_bind (preserves_convertItems kept rest (some item)) fun _ => .pure _

end

end Attempt

theorem Action.run_decode (id : TypeId) (text : Option String) (store : Store) :
    (Attempt.decode id text).run.run store =
      (Attempt.decodeWithin (store.types.size + 1) id text).run.run store := by
  have read : (get : Attempt Store).run.run store = (.ok store, store) := rfl
  rw [Attempt.decode, Attempt.run_bind, read]

theorem Attempt.run_defaultOf {store : Store} {field : Field} {id : TypeId} {text : String}
    (resolved : store.resolve field.valueType = some id) (given : field.defaultText = some text) :
    (defaultOf field).run.run store = (decode id (some text)).run.run store := by
  unfold defaultOf
  rw [run_bind, run_lift, Action.run_resolve, resolved, given]

/-! ## Texts -/

namespace Action

variable {Invariant : Store → Prop} (kept : ∀ id, Preserves Invariant (primitiveOf id))

include kept

theorem preserves_codecOf (id : TypeId) : Preserves Invariant (codecOf id) := by
  refine .bind (kept id) fun primitive => ?_
  cases primitive with
  | none => exact .pure _
  | some primitive => exact .bind (.type? primitive) fun _ => .pure _

theorem preserves_decodeWithin (depth : Nat) (id : TypeId) (text : Option String) :
    Preserves Invariant (Attempt.decodeWithin depth id text).run := by
  induction depth generalizing id text with
  | zero => exact .pure _
  | succ depth induction =>
      refine .attempt_bind (.type? id) fun type => ?_
      split
      case h_1 | h_2 =>
        refine .attempt_bind (preserves_codecOf kept id) fun codec => ?_
        cases codec <;> exact fun _ holds => holds
      next list _ =>
        refine .attempt_bind (.resolve list.item.valueType) fun item => ?_
        split
        · exact .attempt_bind (.attempt_mapM _ fun part => induction _ _) fun _ => .pure _
        · exact .pure _
      · exact .pure _

theorem preserves_decode (id : TypeId) (text : Option String) :
    Preserves Invariant (Attempt.decode id text).run := by
  intro store
  rw [run_decode]
  exact preserves_decodeWithin kept _ id text store

theorem preserves_defaultOf (field : Field) :
    Preserves Invariant (Attempt.defaultOf field).run := by
  unfold Attempt.defaultOf
  refine .attempt_bind (.resolve field.valueType) fun valueType => ?_
  split
  · exact preserves_decode kept _ _
  · exact .pure _

end Action

/-- What is kept by all that consulting does to a store. -/
structure KeptByConsulting (Invariant : Store → Prop) : Prop where
  note : ∀ notice, Action.Preserves Invariant (Action.note notice)
  lookUp : ∀ id name, Action.Preserves Invariant (Action.lookUp id name)
  snapshotOf : ∀ id, Action.Preserves Invariant (Action.snapshotOf id)
  primitiveOf : ∀ id, Action.Preserves Invariant (Action.primitiveOf id)

namespace KeptByConsulting

open DocumentTypes.Action (Preserves)

variable {Invariant : Store → Prop} (kept : KeptByConsulting Invariant)

include kept

/-! ## Paths -/

theorem step (field : Field) (segment : String) (isLast : Bool) :
    Preserves Invariant (Action.step field segment isLast) :=
  Action.preserves_step kept.lookUp field segment isLast

theorem fieldAt (id : TypeId) (path : String) : Preserves Invariant (Action.fieldAt id path) :=
  Action.preserves_fieldAt kept.lookUp id path

/-! ## Texts -/

theorem codecOf (id : TypeId) : Preserves Invariant (Action.codecOf id) :=
  Action.preserves_codecOf kept.primitiveOf id

theorem decode (id : TypeId) (text : Option String) :
    Preserves Invariant (Attempt.decode id text).run :=
  Action.preserves_decode kept.primitiveOf id text

theorem encodeWith {encodeItems? : Option (TypeId → Action (Option (List String)))}
    (each : ∀ encodeItems ∈ encodeItems?, ∀ item, Preserves Invariant (encodeItems item))
    (value : Value) (id : TypeId) :
    Preserves Invariant (Action.encodeWith encodeItems? value id) := by
  refine .bind (.type? id) fun type => ?_
  split
  · exact .bind (kept.codecOf id) fun _ => .pure _
  · exact .bind (kept.codecOf id) fun _ => .pure _
  next list _ =>
    refine .bind (.resolve list.item.valueType) fun item => ?_
    split
    · exact .bind (each _ rfl _) fun _ => .pure _
    · exact .pure _
  · exact .pure _

omit kept in
mutual

theorem encode (kept : KeptByConsulting Invariant) : (value : Value) → (id : TypeId) →
    Preserves Invariant (Action.encode value id)
  | .list items, id | .array items, id => by
      refine kept.encodeWith ?_ _ id
      rintro _ ⟨⟩ item
      exact kept.encodeItems items item
  | .null, id | .boolean _, id | .long _, id | .double _, id | .string _, id | .date _, id
  | .binary _, id | .map _, id => by
      change Preserves Invariant (Action.encodeWith none _ id)
      refine kept.encodeWith ?_ _ id
      rintro _ ⟨⟩

theorem encodeItems (kept : KeptByConsulting Invariant) :
    (items : List Value) → (id : TypeId) → Preserves Invariant (Action.encodeItems items id)
  | [], _ => .pure _
  | item :: rest, id => by
      refine .bind (kept.encode item id) fun text => ?_
      cases text with
      | none => exact .pure _
      | some text => exact .bind (kept.encodeItems rest id) fun _ => .pure _

end

/-! ## Conversion -/

theorem conversionOf (id : TypeId) : Preserves Invariant (Action.conversionOf id) := by
  refine .bind (.type? id) fun type => ?_
  split
  · exact .bind (kept.codecOf id) fun _ => .pure _
  · exact .bind (kept.codecOf id) fun _ => .pure _
  · exact .pure _
  · exact .bind (kept.snapshotOf id) fun _ => .pure _
  next list _ => exact .bind (.resolve list.item.valueType) fun _ => .pure _
  · exact .pure _

theorem field {id : TypeId} {store : Store} {field? : String → Action (Option Field)}
    (conversion : ((Action.conversionOf id).run store).1 = .record field?) (name : String) :
    Preserves Invariant (field? name) := by
  unfold Action.conversionOf at conversion
  rw [Action.run_bind, Action.run_type?] at conversion
  split at conversion
  · cases conversion
  · cases conversion
  · cases conversion
    exact kept.lookUp id name
  · cases conversion
    exact .pure _
  · cases conversion
  · cases conversion

theorem keptByLooking : Attempt.KeptByLooking Invariant where
  conversionOf := kept.conversionOf
  field _ _ _ := kept.field

theorem convert (value : Value) (id : TypeId) :
    Preserves Invariant (Attempt.convert value id).run :=
  Attempt.preserves_convert kept.keptByLooking value id

/-! ## Fresh instances -/

theorem defaultOf (field : Field) : Preserves Invariant (Attempt.defaultOf field).run :=
  Action.preserves_defaultOf kept.primitiveOf field

theorem defaultOrNull (field : Field) : Preserves Invariant (Action.defaultOrNull field) := by
  refine .bind (kept.defaultOf field) fun outcome => ?_
  cases outcome with
  | ok value => exact .pure _
  | error cause => exact .bind (kept.note _) fun _ => .pure _

theorem defaultItems (id : TypeId) (list : ListType) :
    Preserves Invariant (Action.defaultItems id list) := by
  unfold Action.defaultItems
  split
  · exact .pure _
  next text _ =>
    refine .bind (kept.decode id (some text)) fun outcome => ?_
    split
    · exact .pure _
    · exact .pure _
    · exact .bind (kept.note _) fun _ => .pure _

theorem instantiateField {instantiate : TypeId → Action Value}
    (each : ∀ id, Preserves Invariant (instantiate id)) (field : Field) :
    Preserves Invariant (Action.instantiateField instantiate field) := by
  refine .bind (.resolve field.valueType) fun valueType => ?_
  cases valueType with
  | none => exact kept.defaultOrNull field
  | some valueType =>
      refine .bind (.type? valueType) fun type => ?_
      split
      · exact .pure _
      · exact each valueType
      · exact each valueType
      · exact kept.defaultOrNull field

theorem instantiateFields {instantiate : TypeId → Action Value}
    (each : ∀ id, Preserves Invariant (instantiate id)) (fields : List Field) :
    Preserves Invariant (Action.instantiateFields instantiate fields) :=
  .bind (.mapM _ fun field => .bind (kept.instantiateField each field) fun _ => .pure _)
    fun _ => .pure _

theorem instantiateWithin (depth : Nat) (id : TypeId) :
    Preserves Invariant (Action.instantiateWithin depth id) := by
  induction depth generalizing id with
  | zero => exact .bind (kept.note _) fun _ => .pure _
  | succ depth induction =>
      refine .bind (.type? id) fun type => ?_
      cases type with
      | none => exact .pure _
      | some type =>
          dsimp only
          split
          · exact .bind (kept.codecOf id) fun _ => .pure _
          · exact .bind (kept.codecOf id) fun _ => .pure _
          · split
            · exact .pure _
            · exact kept.instantiateFields induction _
          · exact .bind (kept.snapshotOf id) fun _ => kept.instantiateFields induction _
          next list _ => exact .bind (kept.defaultItems id list) fun _ => .pure _

theorem instantiate (id : TypeId) : Preserves Invariant (Action.instantiate id) :=
  fun store => kept.instantiateWithin (store.types.size + 1) id store

end KeptByConsulting
end DocumentTypes
