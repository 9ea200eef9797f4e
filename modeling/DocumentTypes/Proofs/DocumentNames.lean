import DocumentTypes.Definition.Reader

/-! # Names in documents

A document that was read has every name once: its schemas, its facets, the types of each
schema, and at every depth the fields that stand beside each other. -/

namespace DocumentTypes

/-- Fields that stand beside each other have different names, all of which are admitted, and
so have the fields inside each of them. -/
inductive FieldNames (admitted : String → Prop) : List (String × FieldDefinition) → Prop
  | nil : FieldNames admitted []
  | cons {name : String} {field : FieldDefinition} {rest : List (String × FieldDefinition)}
      (admits : admitted name) (once : name ∉ rest.map Prod.fst)
      (inside : FieldNames admitted field.fields) (later : FieldNames admitted rest) :
      FieldNames admitted ((name, field) :: rest)

structure SchemaDocument.NamesOnce (document : SchemaDocument) : Prop where
  schemas : (document.schemas.map Prod.fst).Nodup
  facets : (document.facets.map Prod.fst).Nodup
  types : ∀ entry ∈ document.schemas, (entry.2.types.map Prod.fst).Nodup
  fields : ∀ entry ∈ document.schemas, FieldNames (fun _ => True) entry.2.fields

theorem SchemaDocument.NamesOnce.of_sole {name : String} {definition : SchemaDefinition}
    {facets : List (String × List String)} (types : (definition.types.map Prod.fst).Nodup)
    (fields : FieldNames (fun _ => True) definition.fields)
    (once : (facets.map Prod.fst).Nodup) : NamesOnce ⟨[(name, definition)], facets⟩ where
  schemas := List.nodup_cons.mpr ⟨List.not_mem_nil, List.nodup_nil⟩
  facets := once
  types entry member := by
    rw [List.mem_singleton.mp member]
    exact types
  fields entry member := by
    rw [List.mem_singleton.mp member]
    exact fields

theorem eq_of_mem_of_nodup {α : Type} {entries : List (String × α)} {name : String}
    {first second : α} (nodup : (entries.map Prod.fst).Nodup)
    (firstMember : (name, first) ∈ entries) (secondMember : (name, second) ∈ entries) :
    first = second :=
  Option.some.inj ((Entries.get?_of_mem nodup firstMember).symm.trans
    (Entries.get?_of_mem nodup secondMember))

namespace FieldNames

variable {admitted : String → Prop} {fields : List (String × FieldDefinition)}

theorem of_nodup (nodup : (fields.map Prod.fst).Nodup)
    (each : ∀ entry ∈ fields, admitted entry.1 ∧ FieldNames admitted entry.2.fields) :
    FieldNames admitted fields := by
  induction fields with
  | nil => exact .nil
  | cons entry rest induction =>
      have parts := List.nodup_cons.mp nodup
      have here := each entry List.mem_cons_self
      exact .cons here.1 parts.1 here.2
        (induction parts.2 fun other member => each other (List.mem_cons_of_mem _ member))

theorem imp {wider : String → Prop} (weaken : ∀ name, admitted name → wider name)
    (names : FieldNames admitted fields) : FieldNames wider fields := by
  induction names with
  | nil => exact .nil
  | cons admits once _ _ inside later => exact .cons (weaken _ admits) once inside later

theorem nodup (names : FieldNames admitted fields) : (fields.map Prod.fst).Nodup := by
  induction names with
  | nil => exact List.nodup_nil
  | cons _ once _ _ _ induction => exact List.nodup_cons.mpr ⟨once, induction⟩

theorem of_mem (names : FieldNames admitted fields) {entry : String × FieldDefinition}
    (member : entry ∈ fields) : admitted entry.1 ∧ FieldNames admitted entry.2.fields := by
  induction names with
  | nil => cases member
  | cons admits _ inside _ _ induction =>
      rcases List.mem_cons.mp member with rfl | later
      · exact ⟨admits, inside⟩
      · exact induction later

end FieldNames

/-! ## Reading -/

namespace Yaml

variable {α β : Type}

def Expansion.Yields (expansion : Expansion α) (property : α → Prop) : Prop :=
  ∀ surroundings followed value later,
    (expansion.run surroundings).run followed = some (value, later) → property value

namespace Expansion.Yields

variable {property : α → Prop} {result : β → Prop}

theorem pure {value : α} (holds : property value) :
    Yields (pure value : Expansion α) property := by
  intro _ _ _ _ reads
  cases reads
  exact holds

theorem failure : Yields (failure : Expansion α) property := by
  intro _ _ _ _ reads
  cases reads

theorem any (expansion : Expansion α) : Yields expansion fun _ => True :=
  fun _ _ _ _ _ => trivial

theorem bind {first : Expansion α} {next : α → Expansion β} (earlier : Yields first property)
    (later : ∀ value, property value → Yields (next value) result) :
    Yields (first >>= next) result := by
  intro surroundings followed value last reads
  rcases Option.bind_eq_some_iff.mp reads with ⟨⟨middle, between⟩, firstReads, nextReads⟩
  exact later middle (earlier surroundings followed middle between firstReads) surroundings
    between value last nextReads

theorem enter {inside : Expansion α} (yields : Yields inside property) :
    Yields (Slot.enter inside) property := by
  refine bind (any _) fun surroundings _ => ?_
  split
  · exact failure
  · exact fun _ => yields _

theorem mapM {action : α → Expansion β} (each : ∀ value, Yields (action value) result)
    (values : List α) : Yields (values.mapM action) fun answers =>
      ∀ answer ∈ answers, result answer := by
  induction values with
  | nil =>
      rw [List.mapM_nil]
      exact pure fun _ member => by cases member
  | cons value rest induction =>
      rw [List.mapM_cons]
      refine bind (each value) fun answer holds => bind induction fun answers all => pure ?_
      intro other member
      rcases List.mem_cons.mp member with rfl | later
      · exact holds
      · exact all other later

end Expansion.Yields

namespace Slot

open Expansion (Yields)

variable {property : α → Prop}

theorem mem_foldl_put {entries : List (String × α)} {table : Table String α}
    {entry : String × α} (member : entry ∈
      (entries.foldl (fun table entry => table.put entry.1 entry.2) table).entries) :
    entry ∈ entries ∨ entry ∈ table.entries := by
  induction entries generalizing table with
  | nil => exact .inr member
  | cons first rest induction =>
      rcases induction member with later | earlier
      · exact .inl (List.mem_cons_of_mem _ later)
      · rcases Entries.mem_put earlier with rfl | old
        · exact .inl List.mem_cons_self
        · exact .inr old

theorem table_yields {slot : Slot α} (each : ∀ node, Yields (slot node) property)
    (node : Node) : Yields (table slot node) fun entries =>
      (entries.map Prod.fst).Nodup ∧ ∀ entry ∈ entries, property entry.2 := by
  have eachEntry : ∀ entry : Node × Node, Yields (do
      return (← string entry.1, ← slot entry.2)) fun entry => property entry.2 := fun entry =>
    .bind (.any _) fun _ _ => .bind (each entry.2) fun _ holds => .pure holds
  refine .bind (.any _) fun resolved _ => ?_
  split
  · refine .bind (.enter (.mapM eachEntry _)) fun entries all => .pure ⟨?_, ?_⟩
    · exact (Table.ofList entries).nodup
    · intro entry member
      rcases mem_foldl_put member with present | absent
      · exact all entry present
      · cases absent
  · exact .pure ⟨List.nodup_nil, fun _ member => by cases member⟩
  · exact .failure

theorem member_yields {members : List (String × Node)} {name : String} {missing : α}
    {slot : Slot α} (default : property missing) (each : ∀ node, Yields (slot node) property) :
    Yields (member members name missing slot) property := by
  unfold member
  split
  · exact .pure default
  · exact each _
  · exact .failure

theorem record_yields {build : List (String × Node) → Expansion α}
    (each : ∀ members, Yields (build members) property) (node : Node) :
    Yields (record build node) property := by
  refine .bind (.any _) fun resolved _ => ?_
  split
  · exact .enter (.bind (.any _) fun members _ => each members)
  · exact each []
  · exact .failure

theorem of_readDocument? {slot : Slot α} (each : ∀ node, Yields (slot node) property)
    {text : String} {value : α} (read : readDocument? slot text = some value) :
    property value := by
  rcases Option.bind_eq_some_iff.mp read with ⟨root, -, rooted⟩
  rcases Option.bind_eq_some_iff.mp rooted with ⟨⟨result, later⟩, reads, same⟩
  cases same
  exact each root _ _ _ _ reads

end Slot
end Yaml

open Yaml.Expansion (Yields)
open Yaml.Slot (member_yields record_yields table_yields)

theorem FieldDefinition.slot_yields (depth : Nat) (node : Yaml.Node) :
    Yields (slot depth node) fun field => FieldNames (fun _ => True) field.fields := by
  induction depth generalizing node with
  | zero => exact .failure
  | succ depth induction =>
      refine record_yields (fun members => ?_) node
      refine .bind (.any _) fun _ _ => ?_
      refine .bind (member_yields ⟨List.nodup_nil, fun _ member => by cases member⟩
        (table_yields induction)) fun fields names => ?_
      have once : FieldNames (fun _ => True) fields :=
        .of_nodup names.1 fun entry member => ⟨trivial, names.2 entry member⟩
      refine .bind (.any _) fun _ _ => .bind (.any _) fun _ _ => ?_
      refine .bind (.any _) fun _ _ => .bind (.any _) fun _ _ => ?_
      refine .bind (.any _) fun _ _ => .bind (.any _) fun _ _ => ?_
      exact .bind (.any _) fun _ _ => .pure once

theorem SchemaDefinition.slot_yields (node : Yaml.Node) : Yields (slot node) fun schema =>
    (schema.types.map Prod.fst).Nodup ∧ FieldNames (fun _ => True) schema.fields := by
  refine record_yields (fun members => ?_) node
  refine .bind (.any _) fun _ _ => .bind (.any _) fun _ _ => ?_
  refine .bind (member_yields ⟨List.nodup_nil, fun _ _ => trivial⟩
    (table_yields fun _ => .any _)) fun types typesOnce => ?_
  refine .bind (member_yields ⟨List.nodup_nil, fun _ member => by cases member⟩
    (table_yields (FieldDefinition.slot_yields _))) fun fields names => .pure ?_
  exact ⟨typesOnce.1, .of_nodup names.1 fun entry member => ⟨trivial, names.2 entry member⟩⟩

/-- A document that was read has every name once. -/
theorem SchemaDocument.ofText_namesOnce {text : String} {document : SchemaDocument}
    (read : ofText text = .ok document) : document.NamesOnce := by
  have each : ∀ node, Yields (slot node) NamesOnce := by
    intro node
    refine record_yields (fun members => ?_) node
    refine .bind (member_yields ⟨List.nodup_nil, fun _ member => by cases member⟩
      (table_yields SchemaDefinition.slot_yields)) fun schemas schemasOnce => ?_
    refine .bind (member_yields ⟨List.nodup_nil, fun _ _ => trivial⟩
      (table_yields fun _ => .any _)) fun facets facetsOnce => .pure ?_
    exact ⟨schemasOnce.1, facetsOnce.1, fun entry member => (schemasOnce.2 entry member).1,
      fun entry member => (schemasOnce.2 entry member).2⟩
  unfold ofText at read
  split at read
  next found =>
    cases read
    exact Yaml.Slot.of_readDocument? each found
  next => cases read

end DocumentTypes
