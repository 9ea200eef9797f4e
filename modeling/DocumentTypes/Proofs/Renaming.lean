import DocumentTypes.Proofs.Outcome
import Mathlib.Data.List.Basic

/-! # Renaming

Ids tell types apart and say nothing else. To rename them is to replace the ids inside of
references, fields and types; what is computed of these commutes with that. -/

namespace DocumentTypes

/-! ## Tables of renamed values -/

namespace Entries

variable {κ : Type u} {α : Type v} {β : Type w} [DecidableEq κ]

theorem get?_map (entries : List (κ × α)) (change : α → β) (key : κ) :
    get? (entries.map fun entry => (entry.1, change entry.2)) key =
      (get? entries key).map change := by
  induction entries with
  | nil => rfl
  | cons entry rest induction =>
      rw [List.map_cons, get?, get?, induction]
      split <;> rfl

theorem put_map (entries : List (κ × α)) (change : α → β) (key : κ) (value : α) :
    put (entries.map fun entry => (entry.1, change entry.2)) key (change value) =
      (put entries key value).map fun entry => (entry.1, change entry.2) := by
  induction entries with
  | nil => rfl
  | cons entry rest induction =>
      rw [List.map_cons, put, put, induction]
      split <;> rfl

end Entries

namespace Table

variable {κ : Type u} {α : Type v} {β : Type w}

def map (change : α → β) (table : Table κ α) : Table κ β where
  entries := table.entries.map fun entry => (entry.1, change entry.2)
  nodup := by
    rw [List.map_map]
    exact table.nodup

theorem values_map (change : α → β) (table : Table κ α) :
    (table.map change).values = table.values.map change := by
  simp [map, values]

theorem ext {left right : Table κ α} (same : left.entries = right.entries) : left = right := by
  cases left
  cases right
  cases same
  rfl

variable [DecidableEq κ]

theorem get?_map (change : α → β) (table : Table κ α) (key : κ) :
    (table.map change).get? key = (table.get? key).map change :=
  Entries.get?_map table.entries change key

theorem put_map (change : α → β) (table : Table κ α) (key : κ) (value : α) :
    (table.map change).put key (change value) = (table.put key value).map change :=
  ext (Entries.put_map table.entries change key value)

end Table

/-! ## Renamed data -/

variable (change : TypeId → TypeId)

def TypeRef.rename : TypeRef → TypeRef
  | direct type target => direct (change type) target
  | owner type target => owner (change type) target
  | null => null
  | named registry target => named registry target
  | schema registry name => schema registry name

def Field.rename (field : Field) : Field :=
  { field with owner := change field.owner, valueType := field.valueType.rename change }

def SimpleType.rename (simple : SimpleType) : SimpleType :=
  { simple with primitive := simple.primitive.map change }

def ComplexType.rename (complex : ComplexType) : ComplexType :=
  { complex with
    fields := complex.fields.map (Field.rename change)
    lookups := complex.lookups.map (Field.rename change) }

def Snapshot.rename (snapshot : Snapshot) : Snapshot :=
  { snapshot with
    schemas := snapshot.schemas.map change
    qualifiers := snapshot.qualifiers.map change
    fieldsByName := snapshot.fieldsByName.map (Field.rename change)
    fields := snapshot.fields.map (Field.rename change) }

def CompositeType.rename (composite : CompositeType) : CompositeType :=
  { composite with
    references := composite.references.map (TypeRef.rename change)
    merged := composite.merged.rename change }

def ListType.rename (list : ListType) : ListType :=
  { list with item := list.item.rename change }

def TypeKind.rename : TypeKind → TypeKind
  | primitive kind => primitive kind
  | simple type => simple (type.rename change)
  | complex type => complex (type.rename change)
  | composite type => composite (type.rename change)
  | list type => list (type.rename change)

def DocumentType.rename (type : DocumentType) : DocumentType :=
  { type with base := type.base.rename change, kind := type.kind.rename change }

/-! ## What does not see ids -/

namespace TypeRef

@[simp] theorem target?_rename (reference : TypeRef) :
    (reference.rename change).target? = reference.target? := by
  cases reference <;> rfl

@[simp] theorem isNull_rename (reference : TypeRef) :
    (reference.rename change).isNull = reference.isNull := by
  cases reference <;> rfl

end TypeRef

theorem flatMap_rename {α : Type} {rename : α → α} {ids : α → List TypeId}
    (each : ∀ value, ids (rename value) = (ids value).map change) (values : List α) :
    (values.map rename).flatMap ids = (values.flatMap ids).map change := by
  rw [List.flatMap_map, List.map_flatMap]
  exact List.flatMap_congr fun value _ => each value

theorem DocumentType.references_rename (type : DocumentType) :
    (type.rename change).references = type.references.map (TypeRef.rename change) := by
  rcases type with ⟨name, base, flags, kind⟩
  have bases : (if (base.rename change).isNull then [] else [base.rename change]) =
      (if base.isNull then [] else [base]).map (TypeRef.rename change) := by
    rw [TypeRef.isNull_rename]
    split <;> rfl
  unfold references
  rw [List.map_append, ← bases]
  apply congrArg (List.append _)
  cases kind with
  | complex complex =>
      simp only [DocumentType.rename, TypeKind.rename, ComplexType.rename, Table.values_map,
        List.map_map]
      rfl
  | primitive | simple | composite | list => rfl

theorem DocumentType.askedAll_rename (schemas : List String) (count : Nat)
    (type : DocumentType) : (type.askedAll schemas count).rename change =
      (type.rename change).askedAll schemas count := by
  have asked (schema : String) (type : DocumentType) :
      (type.asked schema count).rename change = (type.rename change).asked schema count := by
    rcases type with ⟨name, base, flags, kind⟩
    cases kind with
    | composite composite =>
        have mentions : (composite.rename change).references.contains schema =
            composite.references.contains schema := by
          change ((composite.references.map (TypeRef.rename change)).get? schema).isSome = _
          rw [Table.get?_map, Option.isSome_map]
          rfl
        simp only [DocumentType.asked, DocumentType.rename, TypeKind.rename, mentions]
        split <;> rfl
    | primitive | simple | complex | list => rfl
  induction schemas generalizing type with
  | nil => rfl
  | cons schema rest induction =>
      have later := induction (type.asked schema count)
      rw [asked] at later
      exact later

/-! ## Declared fields -/

namespace ComplexType

theorem declare_rename (complex : ComplexType) (id : TypeId) (name : TypeName)
    {declaration : FieldDeclaration}
    (plain : declaration.valueType.rename change = declaration.valueType) :
    ((complex.rename change).declare (change id) name declaration).1 =
      ((complex.declare id name declaration).1).rename change := by
  unfold declare ComplexType.rename
  dsimp only
  rw [← Table.put_map]
  simp [Field.rename, plain]
  rfl

theorem declareAll_rename (complex : ComplexType) (id : TypeId) (name : TypeName)
    {declarations : List FieldDeclaration}
    (plain : ∀ declaration ∈ declarations,
      declaration.valueType.rename change = declaration.valueType) :
    (complex.rename change).declareAll (change id) name declarations =
      (complex.declareAll id name declarations).rename change := by
  induction declarations generalizing complex with
  | nil => rfl
  | cons declaration rest induction =>
      have first := declare_rename change complex id name (plain declaration List.mem_cons_self)
      have later := induction (complex.declare id name declaration).1
        fun other member => plain other (List.mem_cons_of_mem _ member)
      rw [← first] at later
      exact later

end ComplexType

theorem CompositeType.addAll_rename (composite : CompositeType) {references : List TypeRef}
    (plain : ∀ reference ∈ references, reference.rename change = reference) :
    (composite.rename change).addAll references = (composite.addAll references).rename change := by
  induction references generalizing composite with
  | nil => rfl
  | cons reference rest induction =>
      have added (target : TypeName) : (composite.rename change).addSchema target.name reference =
          (composite.addSchema target.name reference).rename change := by
        unfold addSchema CompositeType.rename
        dsimp only
        rw [← Table.put_map, plain reference List.mem_cons_self]
      have later := fun next => induction next
        fun other member => plain other (List.mem_cons_of_mem _ member)
      unfold addAll at later ⊢
      rw [List.foldl_cons, List.foldl_cons, ← later]
      cases reference.target? with
      | none => rfl
      | some target => rw [Option.elim_some, Option.elim_some, added]

/-! ## Built types -/

namespace Blueprint

theorem Refers.builtAs_rename {admitted : TypeRef → Prop} {blueprint : Blueprint}
    (refers : blueprint.Refers admitted)
    (plain : ∀ reference, admitted reference → reference.rename change = reference)
    (id : TypeId) : (blueprint.builtAs id).rename change = blueprint.builtAs (change id) := by
  rcases blueprint with ⟨name, base, flags, body⟩
  cases body with
  | primitive | composite => cases refers
  | simple constraints =>
      unfold DocumentType.rename builtAs
      rw [plain base refers.2]
      rfl
  | list item itemName defaultText minOccurs maxOccurs =>
      rcases refers with ⟨rfl, admits⟩
      have items : (itemField id name item itemName minOccurs maxOccurs).rename change =
          itemField (change id) name item itemName minOccurs maxOccurs := by
        simp only [Field.rename, itemField, plain item admits]
      simp only [DocumentType.rename, builtAs, kindAs, TypeKind.rename, ListType.rename, items]
      rfl
  | complex space unstructured fields =>
      rcases refers with ⟨rfl, admits⟩
      let start : ComplexType := { space, unstructured, fields := .empty }
      have declared := ComplexType.declareAll_rename change start id name
        fun declaration member => plain _ (admits declaration member)
      simp only [DocumentType.rename, builtAs, kindAs, TypeKind.rename]
      rw [← declared]
      rfl

theorem builtAs_facet_rename (registryId : RegistryId) (name : String) (schemas : List String)
    (id : TypeId) : ((facet registryId name schemas).builtAs id).rename change =
      (facet registryId name schemas).builtAs (change id) := by
  have plain : ∀ reference ∈ schemas.map (TypeRef.schema registryId),
      reference.rename change = reference := by
    intro reference member
    rcases List.mem_map.mp member with ⟨schema, -, rfl⟩
    rfl
  have added := CompositeType.addAll_rename change .empty plain
  simp only [DocumentType.rename, builtAs, kindAs, TypeKind.rename, facet]
  rw [← added]
  rfl

end Blueprint

theorem Registration.Sound.builtAs_rename {admitted : TypeRef → Prop}
    {registration : Registration} (sound : registration.Sound admitted)
    (plain : ∀ reference, admitted reference → reference.rename change = reference)
    (registryId : RegistryId) (id : TypeId) :
    ((registration.blueprint registryId).builtAs id).rename change =
      (registration.blueprint registryId).builtAs (change id) := by
  cases registration with
  | type blueprint => exact Blueprint.Refers.builtAs_rename change sound plain id
  | schema blueprint => exact Blueprint.Refers.builtAs_rename change sound.1 plain id
  | facet name schemas => exact Blueprint.builtAs_facet_rename change registryId name schemas id

theorem Drafting.AimsAt.rename {registry : Registry} {registryId : RegistryId}
    {names : List TypeName} {reference : TypeRef}
    (aims : AimsAt registry registryId names reference) :
    reference.rename change = reference := by
  rcases aims with ⟨target, rfl, -⟩
  rfl

end DocumentTypes
