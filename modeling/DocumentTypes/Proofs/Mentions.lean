import DocumentTypes.Proofs.Renaming

/-! # Mentioned ids

The ids that stand inside of references, fields and types. What is mentioned nowhere can be
renamed without any change. -/

namespace DocumentTypes

def TypeRef.mentions : TypeRef → List TypeId
  | direct type _ | owner type _ => [type]
  | null | named .. | schema .. => []

def Field.mentions (field : Field) : List TypeId := field.owner :: field.valueType.mentions

def ComplexType.mentions (complex : ComplexType) : List TypeId :=
  complex.fields.values.flatMap Field.mentions ++ complex.lookups.values.flatMap Field.mentions

def Snapshot.mentions (snapshot : Snapshot) : List TypeId :=
  snapshot.schemas ++ snapshot.qualifiers.values ++
    snapshot.fieldsByName.values.flatMap Field.mentions ++ snapshot.fields.flatMap Field.mentions

def CompositeType.mentions (composite : CompositeType) : List TypeId :=
  composite.references.values.flatMap TypeRef.mentions ++ composite.merged.mentions

def TypeKind.mentions : TypeKind → List TypeId
  | primitive _ => []
  | simple type => type.primitive.toList
  | complex type => type.mentions
  | composite type => type.mentions
  | list type => type.item.mentions

def DocumentType.mentions (type : DocumentType) : List TypeId :=
  type.base.mentions ++ type.kind.mentions

/-! ## What is mentioned after renaming -/

section

variable (change : TypeId → TypeId)

theorem TypeRef.mentions_rename (reference : TypeRef) :
    (reference.rename change).mentions = reference.mentions.map change := by
  cases reference <;> rfl

theorem Field.mentions_rename (field : Field) :
    (field.rename change).mentions = field.mentions.map change := by
  unfold mentions
  rw [List.map_cons, ← TypeRef.mentions_rename]
  rfl

theorem Field.flatMap_mentions_rename {κ : Type} (table : Table κ Field) :
    (table.map (rename change)).values.flatMap mentions =
      (table.values.flatMap mentions).map change := by
  rw [Table.values_map, flatMap_rename change (mentions_rename change)]

theorem ComplexType.mentions_rename (complex : ComplexType) :
    (complex.rename change).mentions = complex.mentions.map change := by
  unfold mentions
  rw [List.map_append, ← Field.flatMap_mentions_rename, ← Field.flatMap_mentions_rename]
  rfl

theorem Snapshot.mentions_rename (snapshot : Snapshot) :
    (snapshot.rename change).mentions = snapshot.mentions.map change := by
  unfold mentions
  rw [List.map_append, List.map_append, List.map_append, ← Field.flatMap_mentions_rename,
    ← flatMap_rename change (Field.mentions_rename change), ← Table.values_map]
  rfl

theorem CompositeType.mentions_rename (composite : CompositeType) :
    (composite.rename change).mentions = composite.mentions.map change := by
  unfold mentions
  rw [List.map_append, ← Snapshot.mentions_rename,
    ← flatMap_rename change (TypeRef.mentions_rename change), ← Table.values_map]
  rfl

theorem TypeKind.mentions_rename (kind : TypeKind) :
    (kind.rename change).mentions = kind.mentions.map change := by
  cases kind with
  | primitive => rfl
  | simple type => exact Option.toList_map
  | complex type => exact ComplexType.mentions_rename change type
  | composite type => exact CompositeType.mentions_rename change type
  | list type => exact Field.mentions_rename change type.item

theorem DocumentType.mentions_rename (type : DocumentType) :
    (type.rename change).mentions = type.mentions.map change := by
  unfold mentions
  rw [List.map_append, ← TypeRef.mentions_rename, ← TypeKind.mentions_rename]
  rfl

end

/-! ## Renaming of what is not mentioned -/

variable {change : TypeId → TypeId}

theorem Table.map_eq_self {κ : Type} {α : Type} {table : Table κ α} {change : α → α}
    (fixed : ∀ value ∈ table.values, change value = value) : table.map change = table := by
  refine Table.ext ?_
  calc table.entries.map (fun entry => (entry.1, change entry.2))
      = table.entries.map id := List.map_congr_left fun entry member =>
        congrArg (Prod.mk entry.1) (fixed entry.2 (List.mem_map_of_mem member))
    _ = table.entries := List.map_id _

theorem TypeRef.rename_eq_self {reference : TypeRef}
    (fixed : ∀ id ∈ reference.mentions, change id = id) :
    reference.rename change = reference := by
  cases reference with
  | null | named | schema => rfl
  | direct type target => exact congrArg (direct · target) (fixed type List.mem_cons_self)
  | owner type target => exact congrArg (owner · target) (fixed type List.mem_cons_self)

theorem Field.rename_eq_self {field : Field} (fixed : ∀ id ∈ field.mentions, change id = id) :
    field.rename change = field := by
  have owner := fixed field.owner List.mem_cons_self
  have valueType := TypeRef.rename_eq_self fun id member =>
    fixed id (List.mem_cons_of_mem _ member)
  unfold Field.rename
  rw [owner, valueType]

theorem Field.map_rename_eq_self {fields : List Field}
    (fixed : ∀ id ∈ fields.flatMap Field.mentions, change id = id) :
    ∀ field ∈ fields, field.rename change = field := fun field member =>
  Field.rename_eq_self fun id mentioned => fixed id (List.mem_flatMap.mpr ⟨field, member, mentioned⟩)

theorem ComplexType.rename_eq_self {complex : ComplexType}
    (fixed : ∀ id ∈ complex.mentions, change id = id) : complex.rename change = complex := by
  have fields := Table.map_eq_self (Field.map_rename_eq_self fun id member =>
    fixed id (List.mem_append_left _ member))
  have lookups := Table.map_eq_self (Field.map_rename_eq_self fun id member =>
    fixed id (List.mem_append_right _ member))
  unfold ComplexType.rename
  rw [fields, lookups]

theorem Snapshot.rename_eq_self {snapshot : Snapshot}
    (fixed : ∀ id ∈ snapshot.mentions, change id = id) : snapshot.rename change = snapshot := by
  unfold mentions at fixed
  have schemas : snapshot.schemas.map change = snapshot.schemas := by
    calc snapshot.schemas.map change
        = snapshot.schemas.map id := List.map_congr_left fun id member =>
          fixed id (by simp [member])
      _ = snapshot.schemas := List.map_id _
  have qualifiers : snapshot.qualifiers.map change = snapshot.qualifiers :=
    Table.map_eq_self fun id member => fixed id (by simp [member])
  have byName : snapshot.fieldsByName.map (Field.rename change) = snapshot.fieldsByName :=
    Table.map_eq_self (Field.map_rename_eq_self fun id member => fixed id (by
      simp only [List.mem_append]
      exact .inl (.inr member)))
  have fields : snapshot.fields.map (Field.rename change) = snapshot.fields := by
    calc snapshot.fields.map (Field.rename change)
        = snapshot.fields.map id := List.map_congr_left (Field.map_rename_eq_self
          fun id member => fixed id (List.mem_append_right _ member))
      _ = snapshot.fields := List.map_id _
  unfold Snapshot.rename
  rw [schemas, qualifiers, byName, fields]

theorem CompositeType.rename_eq_self {composite : CompositeType}
    (fixed : ∀ id ∈ composite.mentions, change id = id) :
    composite.rename change = composite := by
  have references : composite.references.map (TypeRef.rename change) = composite.references :=
    Table.map_eq_self fun reference member => TypeRef.rename_eq_self fun id mentioned =>
      fixed id (List.mem_append_left _ (List.mem_flatMap.mpr ⟨reference, member, mentioned⟩))
  have merged : composite.merged.rename change = composite.merged :=
    Snapshot.rename_eq_self fun id member => fixed id (List.mem_append_right _ member)
  unfold CompositeType.rename
  rw [references, merged]

theorem TypeKind.rename_eq_self {kind : TypeKind}
    (fixed : ∀ id ∈ kind.mentions, change id = id) : kind.rename change = kind := by
  cases kind with
  | primitive => rfl
  | simple type =>
      have found : type.primitive.map change = type.primitive := by
        cases known : type.primitive with
        | none => rfl
        | some id => exact congrArg some (fixed id (by simp [mentions, known]))
      change simple { type with primitive := type.primitive.map change } = simple type
      rw [found]
  | complex type => exact congrArg complex (ComplexType.rename_eq_self fixed)
  | composite type => exact congrArg composite (CompositeType.rename_eq_self fixed)
  | list type =>
      change list { type with item := type.item.rename change } = list type
      rw [Field.rename_eq_self fixed]

theorem DocumentType.rename_eq_self {type : DocumentType}
    (fixed : ∀ id ∈ type.mentions, change id = id) : type.rename change = type := by
  have base := TypeRef.rename_eq_self fun id member => fixed id (List.mem_append_left _ member)
  have kind := TypeKind.rename_eq_self fun id member => fixed id (List.mem_append_right _ member)
  unfold DocumentType.rename
  rw [base, kind]

end DocumentTypes
