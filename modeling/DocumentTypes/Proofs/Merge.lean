import DocumentTypes.Proofs.Kinds
import DocumentTypes.Proofs.Running
import DocumentTypes.Store.Merging
import Mathlib.Data.List.Basic

/-! # Merged schemas

What a composite of registered schemas has to show is said here without any table:
the fields of the schemas one after the other, and under every name the last field
that goes by it. Merging the references of such a composite produces exactly that. -/

namespace DocumentTypes

/-- The names under which a composite shows a field: the local one and the full one. -/
def Field.isShownAs (field : Field) (name : String) : Bool :=
  field.localName == name || field.name.text == name

namespace Store

def fieldsAt (store : Store) (id : TypeId) : List Field :=
  (store.complexAt? id).elim [] fun complex => complex.fields.values

def qualifierAt (store : Store) (id : TypeId) : String :=
  (store.complexAt? id).elim "" fun complex => complex.space.qualifier

/-- The schemas registered under the given names at this moment. Names without a
schema are passed over. -/
def presentSchemas (store : Store) (names : List String) : List TypeId :=
  names.filterMap store.registry.schemas.get?

theorem presentSchemas_congr {left right : Store} {names : List String}
    (same : ∀ name ∈ names,
      left.registry.schemas.get? name = right.registry.schemas.get? name) :
    left.presentSchemas names = right.presentSchemas names := by
  induction names with
  | nil => rfl
  | cons name rest induction =>
      unfold presentSchemas
      rw [List.filterMap_cons, List.filterMap_cons, same name List.mem_cons_self]
      have rests := induction fun other member => same other (List.mem_cons_of_mem _ member)
      unfold presentSchemas at rests
      rw [rests]

def SchemasComplex (store : Store) : Prop :=
  ∀ name id, store.registry.schemas.get? name = some id →
    ∃ complex, store.complexAt? id = some complex

/-- A composite refers to schemas of the current registry, each under its own name. -/
def NamesSchemas (store : Store) (composite : CompositeType) : Prop :=
  ∀ entry ∈ composite.references.entries, entry.2 = .schema store.registryId entry.1

theorem NamesSchemas.addSchema {store : Store} {composite : CompositeType}
    (named : store.NamesSchemas composite) (name : String) :
    store.NamesSchemas (composite.addSchema name (.schema store.registryId name)) := by
  intro entry member
  rcases Entries.mem_put member with equal | old
  · rw [equal]
  · exact named entry old

end Store

/-- A snapshot is the merger of the given schemas as they are in a store. -/
structure Snapshot.Shows (snapshot : Snapshot) (store : Store) (schemas : List TypeId) :
    Prop where
  schemas_eq : snapshot.schemas = schemas
  fields_eq : snapshot.fields = schemas.flatMap store.fieldsAt
  field_eq : ∀ name, snapshot.fieldsByName.get? name =
    (schemas.flatMap store.fieldsAt).reverse.find? (·.isShownAs name)
  schema_eq : ∀ qualifier, snapshot.qualifiers.get? qualifier =
    schemas.reverse.find? fun id => qualifier != "" && store.qualifierAt id == qualifier

namespace Snapshot

theorem get?_foldl_put (fields : List Field) (table : Table String Field) (name : String) :
    (fields.foldl (fun byName field =>
      (byName.put field.localName field).put field.name.text field) table).get? name =
      (fields.reverse.find? (·.isShownAs name)).or (table.get? name) := by
  induction fields generalizing table with
  | nil => rfl
  | cons field rest induction =>
      rw [List.foldl_cons, induction, List.reverse_cons, List.find?_append, Option.or_assoc]
      congr 1
      rw [Table.get?_put, Table.get?_put]
      by_cases byText : field.name.text = name
      · simp [Field.isShownAs, byText]
      · by_cases byLocal : field.localName = name <;>
          simp [Field.isShownAs, byText, byLocal]

theorem Shows.empty (store : Store) (generation revision : Nat) :
    ({ Snapshot.empty with generation, revision } : Snapshot).Shows store [] where
  schemas_eq := rfl
  fields_eq := rfl
  field_eq _ := rfl
  schema_eq _ := rfl

theorem Shows.addSchema {snapshot : Snapshot} {store : Store} {schemas : List TypeId}
    (shows : snapshot.Shows store schemas) (id : TypeId) :
    (snapshot.addSchema id (store.qualifierAt id) (store.fieldsAt id)).Shows store
      (schemas ++ [id]) where
  schemas_eq := by simp [Snapshot.addSchema, shows.schemas_eq]
  fields_eq := by simp [Snapshot.addSchema, shows.fields_eq]
  field_eq name := by
    rw [Snapshot.addSchema, get?_foldl_put, shows.field_eq, List.flatMap_append,
      List.reverse_append, List.find?_append, List.flatMap_singleton]
  schema_eq qualifier := by
    rw [List.reverse_append, List.find?_append, ← shows.schema_eq]
    by_cases unnamed : store.qualifierAt id = ""
    · by_cases empty : qualifier = ""
      · simp [Snapshot.addSchema, unnamed, empty]
      · simp [Snapshot.addSchema, unnamed, Ne.symm empty]
    · by_cases same : store.qualifierAt id = qualifier
      · subst same
        simp [Snapshot.addSchema, unnamed, Table.get?_put]
      · simp [Snapshot.addSchema, unnamed, Table.get?_put, same]

theorem Shows.of_eq_on {snapshot : Snapshot} {before after : Store} {schemas : List TypeId}
    (shows : snapshot.Shows before schemas)
    (fields : ∀ id ∈ schemas, after.fieldsAt id = before.fieldsAt id)
    (qualifiers : ∀ id ∈ schemas, after.qualifierAt id = before.qualifierAt id) :
    snapshot.Shows after schemas := by
  have sameFields : schemas.flatMap after.fieldsAt = schemas.flatMap before.fieldsAt := by
    rw [List.flatMap_def, List.flatMap_def, List.map_congr_left fields]
  refine ⟨shows.schemas_eq, sameFields ▸ shows.fields_eq, fun name => ?_, fun qualifier => ?_⟩
  · rw [sameFields]
    exact shows.field_eq name
  · rw [shows.schema_eq qualifier, ← List.head?_filter, ← List.head?_filter]
    congr 1
    apply List.filter_congr
    intro id member
    rw [qualifiers id (List.mem_reverse.mp member)]

end Snapshot

/-! ## Merging schemas of the registry -/

namespace Action

theorem run_fieldsWithin_complex {store : Store} {id : TypeId} {complex : ComplexType}
    (found : store.complexAt? id = some complex) (depth : Nat) :
    (fieldsWithin depth id).run store = (store.fieldsAt id, store) := by
  have fields : store.fieldsAt id = complex.fields.values := by simp [Store.fieldsAt, found]
  have kind := Store.kind_of_complexAt? found
  unfold fieldsWithin
  simp only [run_bind, run_type?, kind, run_pure, fields]

theorem preserves_mergeSchema {Invariant : Store → Prop} {fieldsOf : TypeId → Action (List Field)}
    (noted : ∀ notice, Preserves Invariant (note notice))
    (each : ∀ id, Preserves Invariant (fieldsOf id)) (snapshot : Snapshot)
    (entry : String × TypeRef) : Preserves Invariant (mergeSchema fieldsOf snapshot entry) := by
  refine .bind (.resolve _) fun schema => ?_
  cases schema with
  | none => exact .bind (noted _) fun _ => .pure _
  | some schema => exact .bind (.type? schema) fun _ => .bind (each schema) fun _ => .pure _

theorem run_mergeSchema {store : Store} {entry : String × TypeRef}
    (complex : ∀ id ∈ store.resolve entry.2, (store.complexAt? id).isSome = true)
    (depth : Nat) (snapshot : Snapshot) :
    (mergeSchema (fieldsWithin depth) snapshot entry).run store =
      match store.resolve entry.2 with
      | none => (snapshot, store.note (.schemaSkipped entry.1))
      | some id =>
        (snapshot.addSchema id (store.qualifierAt id) (store.fieldsAt id), store) := by
  cases found : store.resolve entry.2 with
  | none => simp only [mergeSchema, run_bind, run_resolve, found, run_note, run_pure]
  | some id =>
      rcases Option.isSome_iff_exists.mp (complex id found) with ⟨schema, schemaFound⟩
      have bound : (store.type? id).bind DocumentType.complex? = some schema := schemaFound
      simp only [mergeSchema, run_bind, run_resolve, found, run_type?, run_pure,
        run_fieldsWithin_complex schemaFound depth, Store.qualifierAt, schemaFound, bound,
        Option.map_some, Option.elim]

/-- Merging references to complex types adds the merger of these to the snapshot and only
gives notices. The induction is on the references still to be merged. -/
theorem foldlM_mergeSchema_complex {store : Store} (depth : Nat)
    (entries : List (String × TypeRef))
    (complex : ∀ entry ∈ entries, ∀ id ∈ store.resolve entry.2,
      (store.complexAt? id).isSome = true)
    {snapshot : Snapshot} {schemas : List TypeId} (shows : snapshot.Shows store schemas) :
    ∃ result notices,
      (entries.foldlM (mergeSchema (fieldsWithin depth)) snapshot).run store =
        (result, { store with notices }) ∧
      result.Shows store (schemas ++ entries.filterMap fun entry => store.resolve entry.2) := by
  induction entries generalizing store snapshot schemas with
  | nil =>
      refine ⟨snapshot, store.notices, rfl, ?_⟩
      rwa [List.filterMap_nil, List.append_nil]
  | cons entry rest induction =>
      have restComplex := fun other member => complex other (List.mem_cons_of_mem entry member)
      rw [List.foldlM_cons, run_bind, run_mergeSchema (complex entry List.mem_cons_self)]
      cases found : store.resolve entry.2 with
      | none =>
          -- A notice changes neither what references mean nor any type.
          have same (reference : TypeRef) :
              (store.note (.schemaSkipped entry.1)).resolve reference = store.resolve reference :=
            store.resolve_notices _ reference
          have noted : snapshot.Shows (store.note (.schemaSkipped entry.1)) schemas :=
            shows.of_eq_on (fun _ _ => rfl) fun _ _ => rfl
          have notedComplex : ∀ other ∈ rest,
              ∀ id ∈ (store.note (.schemaSkipped entry.1)).resolve other.2,
                ((store.note (.schemaSkipped entry.1)).complexAt? id).isSome = true := by
            intro other member id resolved
            exact restComplex other member id ((same other.2).symm.trans resolved)
          rcases induction notedComplex noted with ⟨result, notices, run, resultShows⟩
          refine ⟨result, notices, run, ?_⟩
          have skipped : (entry :: rest).filterMap (fun entry => store.resolve entry.2) =
              rest.filterMap fun entry => store.resolve entry.2 :=
            List.filterMap_cons_none found
          simp only [same] at resultShows
          rw [skipped]
          exact resultShows.of_eq_on (fun _ _ => rfl) fun _ _ => rfl
      | some id =>
          rcases induction restComplex (shows.addSchema id) with
            ⟨result, notices, run, resultShows⟩
          refine ⟨result, notices, run, ?_⟩
          simpa [found] using resultShows

theorem foldlM_mergeSchema_shows {store : Store} (complex : store.SchemasComplex) (depth : Nat)
    (entries : List (String × TypeRef))
    (named : ∀ entry ∈ entries, entry.2 = .schema store.registryId entry.1)
    {snapshot : Snapshot} {schemas : List TypeId} (shows : snapshot.Shows store schemas) :
    ∃ result notices,
      (entries.foldlM (mergeSchema (fieldsWithin depth)) snapshot).run store =
        (result, { store with notices }) ∧
      result.Shows store (schemas ++ store.presentSchemas (entries.map Prod.fst)) := by
  have resolved : ∀ entry ∈ entries,
      store.resolve entry.2 = store.registry.schemas.get? entry.1 := by
    intro entry member
    rw [named entry member, Store.resolve, if_pos rfl]
  have present : store.presentSchemas (entries.map Prod.fst) =
      entries.filterMap fun entry => store.resolve entry.2 := by
    rw [Store.presentSchemas, List.filterMap_map]
    exact List.filterMap_congr fun entry member => (resolved entry member).symm
  rw [present]
  refine foldlM_mergeSchema_complex depth entries (fun entry member id found => ?_) shows
  rw [resolved entry member] at found
  exact Option.isSome_iff_exists.mpr (complex entry.1 id found)

theorem foldlM_mergeSchema_part {α : Type} (part : Snapshot → α)
    (kept : ∀ snapshot schema qualifier fields,
      part (snapshot.addSchema schema qualifier fields) = part snapshot)
    (fieldsOf : TypeId → Action (List Field)) (entries : List (String × TypeRef))
    (snapshot : Snapshot) (store : Store) :
    part ((entries.foldlM (mergeSchema fieldsOf) snapshot).run store).1 = part snapshot := by
  induction entries generalizing snapshot store with
  | nil => rfl
  | cons entry rest induction =>
      rw [List.foldlM_cons, run_bind, induction]
      simp only [mergeSchema, run_bind, run_resolve]
      cases store.resolve entry.2 with
      | none => rfl
      | some id => exact kept snapshot id _ _

theorem foldlM_mergeSchema_revision (fieldsOf : TypeId → Action (List Field))
    (entries : List (String × TypeRef)) (snapshot : Snapshot) (store : Store) :
    ((entries.foldlM (mergeSchema fieldsOf) snapshot).run store).1.revision =
      snapshot.revision :=
  foldlM_mergeSchema_part _ (fun _ _ _ _ => rfl) fieldsOf entries snapshot store

end Action
end DocumentTypes
