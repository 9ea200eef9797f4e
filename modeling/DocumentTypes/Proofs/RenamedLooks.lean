import DocumentTypes.Proofs.Running
import DocumentTypes.Proofs.RenamedStores
import DocumentTypes.Store.Registration

/-! # Looking at renamed stores

Whatever is asked of a store, a renamed store gives the renamed answer, and the two are
renamed stores again afterwards. This is shown for every action that only looks at types. -/

namespace DocumentTypes

/-! ## Renamed parts -/

section

variable (change : TypeId → TypeId)

theorem ComplexType.find?_rename (complex : ComplexType) (name : String) :
    (complex.rename change).find? name = (complex.find? name).map (Field.rename change) := by
  have values : (complex.fields.map (Field.rename change)).values.find?
      (fun field => field.localName == name) =
        (complex.fields.values.find? fun field => field.localName == name).map
          (Field.rename change) := by
    rw [Table.values_map, List.find?_map]
    rfl
  unfold find? ComplexType.rename
  dsimp only
  rw [Table.get?_map, values]
  cases complex.fields.get? (.parse name complex.space.qualifier) with
  | some field => rfl
  | none =>
      simp only [Option.map_none]
      split <;> rfl

theorem ComplexType.lookUp_rename (complex : ComplexType) (name : String) :
    (complex.rename change).lookUp name = ((complex.lookUp name).1.rename change,
      (complex.lookUp name).2.map (Field.rename change)) := by
  have remembered : (complex.rename change).lookups.get? name =
      (complex.lookups.get? name).map (Field.rename change) := Table.get?_map _ _ _
  unfold lookUp
  rw [remembered, ComplexType.find?_rename]
  cases complex.lookups.get? name with
  | some field => rfl
  | none =>
      cases complex.find? name with
      | none => rfl
      | some field =>
          simp only [Option.map_none, Option.map_some]
          change ({ complex.rename change with lookups :=
            (complex.lookups.map (Field.rename change)).put name (field.rename change) }, _) = _
          rw [Table.put_map]
          rfl

theorem Snapshot.addSchema_rename (snapshot : Snapshot) (schema : TypeId) (qualifier : String)
    (fields : List Field) : (snapshot.rename change).addSchema (change schema) qualifier
      (fields.map (Field.rename change)) =
        (snapshot.addSchema schema qualifier fields).rename change := by
  have byName : ∀ table : Table String Field, (fields.map (Field.rename change)).foldl
      (fun byName field => (byName.put field.localName field).put field.name.text field)
        (table.map (Field.rename change)) =
      (fields.foldl (fun byName field =>
        (byName.put field.localName field).put field.name.text field) table).map
          (Field.rename change) := by
    intro table
    induction fields generalizing table with
    | nil => rfl
    | cons field rest induction =>
        rw [List.map_cons, List.foldl_cons, List.foldl_cons, ← induction, ← Table.put_map,
          ← Table.put_map]
        rfl
  have qualifiers : (if qualifier = "" then snapshot.qualifiers.map change
      else (snapshot.qualifiers.map change).put qualifier (change schema)) =
        (if qualifier = "" then snapshot.qualifiers
          else snapshot.qualifiers.put qualifier schema).map change := by
    rw [Table.put_map]
    split <;> rfl
  simp only [addSchema, Snapshot.rename, byName, qualifiers, List.map_append, List.map_singleton]

theorem DocumentType.complex?_rename (type : DocumentType) :
    (type.rename change).complex? = type.complex?.map (ComplexType.rename change) := by
  rcases type with ⟨name, base, flags, kind⟩
  cases kind <;> rfl

theorem DocumentType.composite?_rename (type : DocumentType) :
    (type.rename change).composite? = type.composite?.map (CompositeType.rename change) := by
  rcases type with ⟨name, base, flags, kind⟩
  cases kind <;> rfl

end

/-! ## Actions in renamed stores -/

namespace Action

variable {α β γ δ : Type} {change : Equiv.Perm TypeId}

/-- Two actions do the same in renamed stores, with corresponding answers. -/
def Carries (change : Equiv.Perm TypeId) (convert : α → β) (action : Action α)
    (other : Action β) : Prop :=
  ∀ left right, Store.Renamed change left right →
    (other.run right).1 = convert (action.run left).1 ∧
      Store.Renamed change (action.run left).2 (other.run right).2

namespace Carries

theorem pure {convert : α → β} (answer : α) :
    Carries change convert (pure answer) (pure (convert answer)) :=
  fun _ _ renamed => ⟨rfl, renamed⟩

theorem bind {convert : α → β} {convertLater : γ → δ} {first : Action α} {other : Action β}
    {next : α → Action γ} {otherNext : β → Action δ} (earlier : Carries change convert first other)
    (later : ∀ answer, Carries change convertLater (next answer) (otherNext (convert answer))) :
    Carries change convertLater (first >>= next) (other >>= otherNext) := by
  intro left right renamed
  have same := earlier left right renamed
  rw [run_bind, run_bind, same.1]
  exact later _ _ _ same.2

theorem foldlM {convert : β → γ} {entry : α → δ} {action : β → α → Action β}
    {other : γ → δ → Action γ} (each : ∀ result value,
      Carries change convert (action result value) (other (convert result) (entry value))) :
    ∀ (values : List α) (start : β), Carries change convert (values.foldlM action start)
      ((values.map entry).foldlM other (convert start))
  | [], start => pure start
  | value :: rest, start => by
      rw [List.foldlM_cons, List.map_cons, List.foldlM_cons]
      exact bind (each start value) fun result => foldlM each rest result

end Carries

theorem carries_resolve (reference : TypeRef) :
    Carries change (Option.map change) (resolve reference) (resolve (reference.rename change)) :=
  fun _ _ renamed => ⟨renamed.resolve_eq reference, renamed⟩

theorem carries_type? (id : TypeId) :
    Carries change (Option.map (DocumentType.rename change)) (type? id) (type? (change id)) :=
  fun _ _ renamed => ⟨renamed.type?_eq id, renamed⟩

theorem carries_note (notice : Notice) : Carries change id (note notice) (note notice) :=
  fun _ _ renamed => ⟨rfl, renamed.noted notice⟩

theorem carries_mergeSchema {depth : Nat} (each : ∀ id,
      Carries change (List.map (Field.rename change)) (fieldsWithin depth id)
        (fieldsWithin depth (change id))) (snapshot : Snapshot) (entry : String × TypeRef) :
    Carries change (Snapshot.rename change) (mergeSchema (fieldsWithin depth) snapshot entry)
      (mergeSchema (fieldsWithin depth) (snapshot.rename change)
        (entry.1, entry.2.rename change)) := by
  refine .bind (carries_resolve entry.2) fun found => ?_
  cases found with
  | none => exact .bind (carries_note _) fun _ => .pure snapshot
  | some schema =>
      refine .bind (carries_type? schema) fun type => .bind (each schema) fun fields => ?_
      have spaces : (((type.map (DocumentType.rename change)).bind DocumentType.complex?).map
          ComplexType.space) = (type.bind DocumentType.complex?).map ComplexType.space := by
        cases type with
        | none => rfl
        | some type =>
            rw [Option.map_some, Option.bind_some, Option.bind_some,
              DocumentType.complex?_rename, Option.map_map]
            rfl
      rw [spaces, Snapshot.addSchema_rename]
      exact .pure _

theorem carries_merge {depth : Nat} (each : ∀ id,
      Carries change (List.map (Field.rename change)) (fieldsWithin depth id)
        (fieldsWithin depth (change id))) (id : TypeId) (composite : CompositeType) :
    Carries change (Snapshot.rename change) (merge (fieldsWithin depth) id composite)
      (merge (fieldsWithin depth) (change id) (composite.rename change)) := by
  have merges (start : Snapshot) : Carries change (Snapshot.rename change)
      (composite.references.entries.foldlM (mergeSchema (fieldsWithin depth)) start)
      ((composite.rename change).references.entries.foldlM (mergeSchema (fieldsWithin depth))
        (start.rename change)) :=
    .foldlM (carries_mergeSchema each) composite.references.entries start
  refine .bind (merges _) fun snapshot => ?_
  intro left right renamed
  have merged := (renamed.noted (.merged snapshot.schemas.length snapshot.fields.length
    snapshot.generation)).setKind id (.composite { composite with merged := snapshot })
  refine ⟨rfl, ?_⟩
  have lengths : (snapshot.rename change).schemas.length = snapshot.schemas.length ∧
      (snapshot.rename change).fields.length = snapshot.fields.length :=
    ⟨List.length_map _, List.length_map _⟩
  simp only [run_bind, run_note, lengths.1, lengths.2]
  exact merged

theorem carries_fieldsWithin (depth : Nat) : ∀ id,
    Carries change (List.map (Field.rename change)) (fieldsWithin depth id)
      (fieldsWithin depth (change id)) := by
  induction depth with
  | zero =>
      intro id left right renamed
      unfold fieldsWithin
      simp only [run_bind, run_type?, renamed.type?_eq]
      rcases left.type? id with _ | ⟨name, base, flags, kind⟩
      · exact ⟨rfl, renamed⟩
      · cases kind with
        | primitive | simple | list => exact ⟨rfl, renamed⟩
        | complex complex => exact ⟨Table.values_map _ _, renamed⟩
        | composite composite =>
            simp only [Option.map_some, DocumentType.rename, TypeKind.rename]
            rw [show (composite.rename change).isCurrent = composite.isCurrent from rfl]
            split
            · exact ⟨rfl, renamed⟩
            · exact ⟨rfl, renamed.noted _⟩
  | succ depth induction =>
      intro id left right renamed
      unfold fieldsWithin
      simp only [run_bind, run_type?, renamed.type?_eq]
      rcases left.type? id with _ | ⟨name, base, flags, kind⟩
      · exact ⟨rfl, renamed⟩
      · cases kind with
        | primitive | simple | list => exact ⟨rfl, renamed⟩
        | complex complex => exact ⟨Table.values_map _ _, renamed⟩
        | composite composite =>
            simp only [Option.map_some, DocumentType.rename, TypeKind.rename]
            rw [show (composite.rename change).isCurrent = composite.isCurrent from rfl]
            split
            · exact ⟨rfl, renamed⟩
            · exact Carries.bind (carries_merge induction id composite)
                (fun snapshot => .pure snapshot.fields) left right renamed

theorem carries_fieldsOf (id : TypeId) :
    Carries change (List.map (Field.rename change)) (fieldsOf id) (fieldsOf (change id)) := by
  intro left right renamed
  unfold fieldsOf
  rw [run_bind, run_bind, run_get, run_get, renamed.size_eq]
  exact carries_fieldsWithin _ id left right renamed

theorem carries_snapshotOf (id : TypeId) :
    Carries change (Snapshot.rename change) (snapshotOf id) (snapshotOf (change id)) := by
  intro left right renamed
  unfold snapshotOf
  simp only [run_bind, run_type?, renamed.type?_eq]
  cases left.type? id with
  | none => exact ⟨rfl, renamed⟩
  | some type =>
      rw [Option.map_some, Option.bind_some, Option.bind_some, DocumentType.composite?_rename]
      cases type.composite? with
      | none => exact ⟨rfl, renamed⟩
      | some composite =>
          simp only [Option.map_some]
          rw [show (composite.rename change).isCurrent = composite.isCurrent from rfl]
          split
          · exact ⟨rfl, renamed⟩
          · simp only [run_bind, run_get, renamed.size_eq]
            exact carries_merge (carries_fieldsWithin _) id composite left right renamed

theorem carries_lookUp (id : TypeId) (name : String) :
    Carries change (Option.map (Field.rename change)) (lookUp id name)
      (lookUp (change id) name) := by
  intro left right renamed
  have snapshots := carries_snapshotOf id left right renamed
  unfold lookUp
  simp only [run_bind, run_type?, renamed.type?_eq]
  rcases left.type? id with _ | ⟨typeName, base, flags, kind⟩
  · exact ⟨rfl, renamed⟩
  · cases kind with
    | primitive | simple | list => exact ⟨rfl, renamed⟩
    | complex complex =>
        simp only [Option.map_some, DocumentType.rename, TypeKind.rename,
          ComplexType.lookUp_rename]
        exact ⟨rfl, renamed.setKind id (.complex (complex.lookUp name).1)⟩
    | composite composite =>
        simp only [Option.map_some, DocumentType.rename, TypeKind.rename, run_bind]
        refine ⟨?_, snapshots.2⟩
        simp only [run_pure, snapshots.1]
        exact Table.get?_map _ _ _

/-! ## Paths -/

theorem carries_step (field : Field) (segment : String) (isLast : Bool) :
    Carries change (Option.map (Field.rename change)) (step field segment isLast)
      (step (field.rename change) segment isLast) := by
  refine .bind (carries_resolve field.valueType) fun valueType => ?_
  cases valueType with
  | none => exact .pure none
  | some valueType =>
      intro left right renamed
      have looked := carries_lookUp valueType segment left right renamed
      simp only [Option.map_some, run_bind, run_type?, renamed.type?_eq]
      rcases left.type? valueType with _ | ⟨typeName, base, flags, kind⟩
      · exact ⟨rfl, renamed⟩
      · cases kind with
        | primitive | simple => exact ⟨rfl, renamed⟩
        | complex => exact looked
        | composite => exact looked
        | list list =>
            simp only [Option.map_some, DocumentType.rename, TypeKind.rename]
            by_cases isIndex : Path.isListIndex segment = true
            · rw [if_pos isIndex, if_pos isIndex]
              cases isLast <;> exact ⟨rfl, renamed⟩
            · rw [if_neg isIndex, if_neg isIndex]
              refine Carries.bind (carries_resolve list.item.valueType) (fun item => ?_)
                left right renamed
              cases item with
              | none => exact .pure none
              | some item =>
                  refine .bind (carries_type? item) fun type => ?_
                  have complex : ((type.map (DocumentType.rename change)).bind
                      DocumentType.complex?).isSome =
                        (type.bind DocumentType.complex?).isSome := by
                    cases type with
                    | none => rfl
                    | some type =>
                        rw [Option.map_some, Option.bind_some, Option.bind_some,
                          DocumentType.complex?_rename, Option.isSome_map]
                  simp only [complex]
                  split
                  · exact carries_lookUp item segment
                  · change Carries change _ _ (if list.item.localName = segment then _ else _)
                    split
                    · exact .pure (some list.item)
                    · exact .pure none

theorem carries_walk (segments : List String) (field : Field) :
    Carries change (Option.map (Field.rename change)) (walk field segments)
      (walk (field.rename change) segments) := by
  induction segments generalizing field with
  | nil => exact .pure (some field)
  | cons segment rest induction =>
      refine .bind (carries_step field segment rest.isEmpty) fun next => ?_
      cases next with
      | none => exact .pure none
      | some next => exact induction next

theorem carries_topLevelField (name : String) :
    Carries change (Option.map (Field.rename change)) (topLevelField name)
      (topLevelField name) := by
  intro left right renamed
  unfold topLevelField
  simp only [run_bind, run_get, renamed.fieldLookups]
  cases left.registry.fieldLookups.get? name with
  | some field => exact ⟨rfl, renamed⟩
  | none =>
      simp only [Option.map_none, run_bind, run_get, renamed.schemaFor?_eq]
      cases left.registry.schemaFor? (QualifiedName.parse name "").qualifier with
      | none => exact ⟨rfl, renamed⟩
      | some schema =>
          refine Carries.bind (carries_lookUp schema (QualifiedName.parse name "").localName)
            (fun found => ?_) left right renamed
          cases found with
          | none => exact .pure none
          | some field => exact fun _ _ renamed => ⟨rfl, renamed.remembered name field⟩

theorem carries_registeredField (path : String) :
    Carries change (Option.map (Field.rename change)) (registeredField path)
      (registeredField path) := by
  unfold registeredField
  cases Path.segments (Path.canonical path) with
  | nil => exact .pure none
  | cons first rest =>
      refine .bind (carries_topLevelField first) fun found => ?_
      cases found with
      | none => exact .pure none
      | some field => exact carries_walk rest field

theorem carries_fieldAt (id : TypeId) (path : String) :
    Carries change (Option.map (Field.rename change)) (fieldAt id path)
      (fieldAt (change id) path) := by
  unfold fieldAt
  cases Path.segments (Path.canonical path) with
  | nil => exact .pure none
  | cons first rest =>
      refine .bind (carries_lookUp id first) fun found => ?_
      cases found with
      | none => exact .pure none
      | some field => exact carries_walk rest field

end Action
end DocumentTypes
