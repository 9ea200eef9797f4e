import DocumentTypes.Proofs.FreshInstances
import DocumentTypes.Proofs.Readings

/-! # Merged indexes

A composite keeps its fields in one index under two kinds of names. Where no name of a field
contains a colon, the kinds cannot be confused: a name without colon is a local name, and one
with a colon is a qualified one. -/

namespace DocumentTypes

open Store (Steady)

theorem QualifiedName.text_eq_append_iff {name : QualifiedName}
    (plainLocal : ':' ∉ name.localName.toList) (plain : ':' ∉ name.qualifier.toList)
    (qualifier localName : String) :
    name.text = qualifier ++ ":" ++ localName ↔ qualifier ≠ "" ∧ name = ⟨qualifier, localName⟩ := by
  rcases name with ⟨nameQualifier, nameLocal⟩
  by_cases unqualified : nameQualifier = ""
  · subst unqualified
    refine iff_of_false (fun same => ?_) fun ⟨present, same⟩ => ?_
    · rw [text, if_pos rfl] at same
      change nameLocal = _ at same
      simp [same, String.toList_append] at plainLocal
    · exact present (QualifiedName.mk.inj same).1.symm
  · have colon : ":".toList = [':'] := rfl
    rw [text, if_neg unqualified, ← String.toList_inj]
    simp only [String.toList_append, colon, List.append_assoc, List.singleton_append]
    rw [List.append_cons_inj_of_notMem plain plainLocal, String.toList_inj, String.toList_inj,
      and_iff_right rfl, QualifiedName.mk.injEq]
    exact ⟨fun same => ⟨same.1 ▸ unqualified, same⟩, And.right⟩

namespace Field

variable {field : Field}

def IsPlain (field : Field) : Prop :=
  ':' ∉ field.localName.toList ∧ ':' ∉ field.name.qualifier.toList

instance (field : Field) : Decidable field.IsPlain := inferInstanceAs (Decidable (_ ∧ _))

def lastCalled? (fields : List Field) (name : QualifiedName) : Option Field :=
  fields.reverse.find? fun field => field.name == name

theorem IsPlain.isShownAs_append (plain : field.IsPlain) (qualifier localName : String) :
    field.isShownAs (qualifier ++ ":" ++ localName) =
      (qualifier != "" && field.name == ⟨qualifier, localName⟩) := by
  have notLocal : field.localName ≠ qualifier ++ ":" ++ localName := by
    intro same
    have plainLocal := plain.1
    simp [same, String.toList_append] at plainLocal
  rw [isShownAs, beq_eq_false_iff_ne.mpr notLocal, Bool.false_or, Bool.eq_iff_iff]
  simp [QualifiedName.text_eq_append_iff plain.1 plain.2]

end Field

namespace Snapshot.Shows

variable {snapshot : Snapshot} {store : Store} {schemas : List TypeId}

theorem get?_of_bare (shows : snapshot.Shows store schemas) {name : String}
    (bare : ':' ∉ name.toList) : snapshot.fieldsByName.get? name =
      Field.lastNamed? (schemas.flatMap store.fieldsAt) name := by
  rw [shows.field_eq, Field.lastNamed?]
  exact congrArg (List.find? · _) (funext fun _ => Field.isShownAs_of_bare bare)

theorem get?_append (shows : snapshot.Shows store schemas)
    (plain : ∀ schema ∈ schemas, ∀ field ∈ store.fieldsAt schema, field.IsPlain)
    (qualifier localName : String) :
    snapshot.fieldsByName.get? (qualifier ++ ":" ++ localName) = if qualifier = "" then none
      else Field.lastCalled? (schemas.flatMap store.fieldsAt) ⟨qualifier, localName⟩ := by
  have names : ∀ field ∈ (schemas.flatMap store.fieldsAt).reverse,
      field.isShownAs (qualifier ++ ":" ++ localName) =
        (qualifier != "" && field.name == ⟨qualifier, localName⟩) := by
    intro field member
    rcases List.mem_flatMap.mp (List.mem_reverse.mp member) with ⟨schema, isSchema, isField⟩
    exact (plain schema isSchema field isField).isShownAs_append qualifier localName
  rw [shows.field_eq, ← List.head?_filter, List.filter_congr names, List.head?_filter]
  by_cases present : qualifier = ""
  · simp [present]
  · rw [if_neg present, bne_iff_ne.mpr present]
    rfl

end Snapshot.Shows

namespace Action

variable {store : Store} {id : TypeId} {composite : CompositeType}

theorem snapshotOf_shows_complex (found : store.compositeAt? id = some composite)
    (outdated : composite.isCurrent = false)
    (complex : ∀ entry ∈ composite.references.entries, ∀ schema ∈ store.resolve entry.2,
      (store.complexAt? schema).isSome = true) :
    ((snapshotOf id).run store).1.Shows store
      (composite.references.entries.filterMap fun entry => store.resolve entry.2) := by
  rcases foldlM_mergeSchema_complex store.types.size composite.references.entries complex
    (Snapshot.Shows.empty store (composite.merged.generation + 1) composite.requested) with
    ⟨snapshot, notices, folded, shows⟩
  rw [run_snapshotOf found, if_neg (by simp [outdated])]
  simp only [merge, run_bind, folded]
  exact shows

/-- After a merger of complex types, a composite has their fields one after the other. A bare
name means the last field with this local name, one with a qualifier the last field of exactly
this name, and one that only begins with a colon nothing. A qualifier means the last schema that
declares it. All this stays so whatever is read after the merger. -/
theorem read_after_merger (found : store.compositeAt? id = some composite)
    (outdated : composite.isCurrent = false)
    (complex : ∀ entry ∈ composite.references.entries, ∀ schema ∈ store.resolve entry.2,
      (store.complexAt? schema).isSome = true) :
    let schemas := composite.references.entries.filterMap fun entry => store.resolve entry.2
    let fields := schemas.flatMap store.fieldsAt
    (∀ field ∈ fields, field.IsPlain) →
    ∀ later, ((snapshotOf id).run store).2.Steady later →
      ((snapshotOf id).run later).1.schemas = schemas ∧
      ((fieldsOf id).run later).1 = fields ∧
      (∀ name, ':' ∉ name.toList →
        ((lookUp id name).run later).1 = Field.lastNamed? fields name) ∧
      (∀ qualifier localName, ((lookUp id (qualifier ++ ":" ++ localName)).run later).1 =
        if qualifier = "" then none else Field.lastCalled? fields ⟨qualifier, localName⟩) ∧
      ∀ qualifier, ((snapshotOf id).run later).1.qualifiers.get? qualifier =
        if qualifier = "" then none
        else schemas.reverse.find? fun schema => store.qualifierAt schema == qualifier := by
  intro schemas fields plain later steady
  have shows : ((snapshotOf id).run store).1.Shows store schemas :=
    snapshotOf_shows_complex found outdated complex
  have same := run_snapshotOf_later found steady
  rcases compositeAt?_snapshotOf found with ⟨shown, shownFound, -, now⟩
  have laterFound := steady.current id shown shownFound now
  have laterFields : ((fieldsOf id).run later).1 = ((snapshotOf id).run later).1.fields := by
    have run := Reading.run_ask laterFound .fields
    exact Reading.Answer.fields.inj (congrArg Prod.fst run)
  have laterLookUp (name : String) : ((lookUp id name).run later).1 =
      ((snapshotOf id).run later).1.fieldsByName.get? name := by
    have run := Reading.run_ask laterFound (.field name)
    exact Reading.Answer.field.inj (congrArg Prod.fst run)
  simp only [laterFields, laterLookUp, same]
  refine ⟨shows.schemas_eq, shows.fields_eq, fun name bare => shows.get?_of_bare bare, ?_, ?_⟩
  · intro qualifier localName
    refine shows.get?_append (fun schema isSchema field isField => ?_) qualifier localName
    exact plain field (List.mem_flatMap.mpr ⟨schema, isSchema, isField⟩)
  · intro qualifier
    rw [shows.schema_eq qualifier]
    by_cases present : qualifier = ""
    · simp [present]
    · rw [if_neg present, bne_iff_ne.mpr present]
      rfl

/-- Fields of one local name with and without qualifier in three schemas, two of which declare
the same qualifier, and a reference that finds nothing. -/
theorem read_after_merger_of_namesakes :
    let named (name : String) : TypeRef := .named Store.initial.registryId ⟨"dc", name⟩
    let complex (name qualifier : String) (fields : List String) : Event := .operate (.build {
      name := ⟨"dc", name⟩
      body := .complex ⟨"", qualifier⟩ none (fields.map fun field =>
        { name := field, valueType := .null }) })
    let direct (position : Nat) (name : String) : TypeRef := .direct ⟨position⟩ ⟨"dc", name⟩
    let store := Store.initial.after [complex "core" "p" ["title", "size"],
      complex "file" "" ["title", "p:size"], complex "note" "p" ["q:title"],
      .operate (.build ⟨⟨"dc", "all"⟩, .null, 0,
        .composite [direct 8 "core", named "none", direct 9 "file", direct 10 "note"]⟩)]
    let after := ((snapshotOf ⟨11⟩).run store).2
    ((fieldsOf ⟨11⟩).run after).1.map (fun field => (field.owner, field.name.text)) =
      [(⟨8⟩, "p:title"), (⟨8⟩, "p:size"), (⟨9⟩, "title"), (⟨9⟩, "p:size"), (⟨10⟩, "q:title")] ∧
    ((lookUp ⟨11⟩ "title").run after).1.map Field.owner = some ⟨10⟩ ∧
    ((lookUp ⟨11⟩ "p:title").run after).1.map Field.owner = some ⟨8⟩ ∧
    ((lookUp ⟨11⟩ "p:size").run after).1.map Field.owner = some ⟨9⟩ ∧
    ((lookUp ⟨11⟩ ":title").run after).1 = none ∧
    ((snapshotOf ⟨11⟩).run after).1.qualifiers.get? "p" = some ⟨10⟩ := by
  intro named complex direct store after
  have isSome : (store.compositeAt? ⟨11⟩).isSome = true := by decide +kernel
  rcases Option.isSome_iff_exists.mp isSome with ⟨composite, found⟩
  have isComposite : ∀ composite ∈ store.compositeAt? ⟨11⟩, composite.isCurrent = false ∧
      (∀ entry ∈ composite.references.entries, ∀ schema ∈ store.resolve entry.2,
        (store.complexAt? schema).isSome = true) ∧
      (composite.references.entries.filterMap fun entry => store.resolve entry.2) =
        [⟨8⟩, ⟨9⟩, ⟨10⟩] := by decide +kernel
  rcases isComposite composite found with ⟨outdated, areComplex, schemas⟩
  have read := read_after_merger found outdated areComplex
  rw [schemas] at read
  rcases read (by decide +kernel) after (.refl after) with
    ⟨-, fields, bare, qualified, declaring⟩
  rw [fields, bare "title" (by decide), declaring "p"]
  have title := qualified "p" "title"
  have size := qualified "p" "size"
  have nothing := qualified "" "title"
  simp only [String.reduceAppend] at title size nothing
  rw [title, size, nothing]
  decide +kernel

end Action
end DocumentTypes
