import DocumentTypes.Proofs.GeneratedTypes
import DocumentTypes.Proofs.ListTexts

/-! # Defaults of lists

The default of a list is kept as one text, and a fresh list holds what is read from its parts.
So the items of a default come back if there are any and none of them holds a blank. -/

namespace DocumentTypes

open Drafting (schemaScope listTypeName listTypes)

/-! ## Fresh lists -/

namespace Action

variable {store : Store} {id item : TypeId} {list : ListType} {text : String}
  {texts : List String} {values : List Value}

theorem instantiate_list (listed : store.ListOver id list item) (scalar : store.Scalar item)
    (defaulted : list.defaultText = some text) :
    ((instantiate id).run store).1 =
      .list (((splitItems text).mapM (store.readAs item)).toOption.getD []) := by
  rcases Option.map_eq_some_iff.mp listed.kind with ⟨type, found, kind⟩
  have items : ((defaultItems id list).run store).1 =
      ((splitItems text).mapM (store.readAs item)).toOption.getD [] := by
    rw [defaultItems, defaulted]
    dsimp only
    rw [run_bind, Attempt.run_decode_list listed scalar]
    cases (splitItems text).mapM (store.readAs item) <;> rfl
  rw [← items]
  change ((instantiateWithin (store.types.size + 1) id).run store).1 = _
  rw [instantiateWithin, run_bind, run_type?, found]
  dsimp only
  rw [kind]
  rfl

theorem instantiate_list_of_texts (listed : store.ListOver id list item)
    (scalar : store.Scalar item) (known : store.codec? item = some .string)
    (defaulted : list.defaultText = some text) :
    ((instantiate id).run store).1 = .list ((splitItems text).map .string) := by
  have read : (splitItems text).mapM (store.readAs item) =
      .ok ((splitItems text).map .string) := by
    refine Attempt.mapM_eq_ok_iff.mpr (List.forall₂_map_right_iff.mpr ?_)
    exact List.forall₂_same.mpr fun part _ => (Store.readAs_eq_ok_iff known).mpr rfl
  rw [instantiate_list listed scalar defaulted, read]
  rfl

/-- Texts that the items can be read from come back as the fresh list just if there are any and
none of them holds a blank. Without any, the empty text is read, and has to be refused. -/
theorem instantiate_list_eq_iff (listed : store.ListOver id list item)
    (scalar : store.Scalar item) (defaulted : list.defaultText = some (joinItems texts))
    (each : List.Forall₂ (fun text value => store.readAs item text = .ok value) texts values) :
    ((instantiate id).run store).1 = .list values ↔
      (texts ≠ [] ∧ ∀ text ∈ texts, itemSeparator ∉ text.toList) ∨
      (texts = [] ∧ (store.readAs item "").isOk = false) := by
  rw [instantiate_list listed scalar defaulted, Value.list.injEq]
  by_cases empty : texts = []
  · subst empty
    cases List.forall₂_nil_left_iff.mp each
    have parts : (splitItems (joinItems [])).mapM (store.readAs item) =
        (store.readAs item "").map fun value => [value] := by
      change ([""].mapM _) = _
      rw [List.mapM_cons]
      cases store.readAs item "" <;> rfl
    rw [parts]
    cases store.readAs item "" <;> simp [Except.map, Except.toOption, Except.isOk, Except.toBool]
  · have given : values ≠ [] := fun none =>
      empty (List.forall₂_nil_right_iff.mp (none ▸ each))
    -- A default that cannot be read gives no items, and so not these.
    have whole (outcome : Except Failure (List Value)) :
        outcome.toOption.getD [] = values ↔ outcome = .ok values := by
      cases outcome with
      | error failure => simp [Except.toOption, given.symm]
      | ok results => simp [Except.toOption]
    rw [whole, Attempt.mapM_eq_ok_iff, forall₂_splitItems_iff each, or_iff_left]
    exact fun none => empty none.1

end Action

/-! ## Declared defaults -/

/-- The default of a sequence of scalars is kept as their texts, joined like items. -/
theorem FieldDefinition.defaultText?_of_sequence {field : FieldDefinition}
    {data : List Yaml.Data} {texts : List String} (given : field.default = some (.sequence data))
    (scalars : data.map Yaml.Data.scalarText? = texts.map some) :
    field.defaultText? = some (joinItems texts) := by
  have kept : data.filterMap Yaml.Data.scalarText? = texts := by
    have kept := congrArg (List.filterMap id) scalars
    rwa [List.filterMap_map, List.filterMap_map, Function.id_comp, Function.id_comp,
      List.filterMap_some] at kept
  rw [defaultText?, given, ← kept]
  rfl

theorem Generation.list_builtAs {scope : Scope} {space : Namespace} {path : String}
    {field : FieldDefinition} {blueprint : Blueprint}
    (generated : list.blueprint? scope space path field = some blueprint) (id : TypeId) :
    ∃ built, (blueprint.builtAs id).list? = some built ∧
      scope.itemReference? path field = some built.item.valueType ∧
      built.defaultText = field.defaultText? := by
  rcases Option.bind_eq_some_iff.mp generated with ⟨item, known, first⟩
  unfold listTypes at first
  split at first
  · cases first
    exact ⟨_, rfl, known, rfl⟩
  · cases first

namespace Attempt

variable {document : SchemaDocument} {store after : Store} {name : String}
  {definition : SchemaDefinition} {names : List String} {field : FieldDefinition}

/-- A list of a loaded document, with a sequence of scalars as default, keeps its items: whenever
each of their texts can be read, the values that are read are the fresh list just if there are
any and no text holds a blank, or if there are none and the empty text cannot be read. The list
is the type of the field, unless its name was taken by another type. -/
theorem load_keeps_list_default (loaded : (load document).run.run store = (.ok (), after))
    (schema : (name, definition) ∈ document.schemas)
    (declaredAt : DeclaredAt definition.fields names field) (isList : field.isList = true)
    {data : List Yaml.Data} {texts : List String} (given : field.default = some (.sequence data))
    (scalars : data.map Yaml.Data.scalarText? = texts.map some) :
    let scope := schemaScope store.registry store.registryId name definition
    let path := "/".intercalate names
    ∃ id list reference, store.types.size ≤ id.position ∧
      (after.type? id).bind DocumentType.list? = some list ∧
      scope.itemReference? path field = some list.item.valueType ∧
      Generation.list.reference? scope path field = some reference ∧
      (document.NamesOnce → Generation.list.IsSole definition.fields names →
        listTypeName path ≠ name →
        (name = facetSchema → listTypeName path ∉ document.facets.map Prod.fst) →
        after.resolve reference = some id) ∧
      ∀ (moment : Store) (item : TypeId) (values : List Value), moment.ListOver id list item →
        moment.Scalar item →
        List.Forall₂ (fun text value => ((decode item (some text)).run.run moment).1 = .ok value)
          texts values →
        (((Action.instantiate id).run moment).1 = .list values ↔
          (texts ≠ [] ∧ ∀ text ∈ texts, ' ' ∉ text.toList) ∨
          (texts = [] ∧ ((decode item (some "")).run.run moment).1.isOk = false)) := by
  intro scope path
  have applies : Generation.list.Applies field := isList
  rcases load_builds_generated loaded schema declaredAt applies with
    ⟨reference, blueprint, id, used, generated, new, built, means⟩
  rcases Generation.list_builtAs generated id with ⟨list, listFound, itemEq, defaulted⟩
  refine ⟨id, list, reference, new, ?_, itemEq, used, means, ?_⟩
  · rw [built]
    exact listFound
  · intro moment item values listed scalar each
    rw [FieldDefinition.defaultText?_of_sequence given scalars] at defaulted
    simp only [scalar.run_decode] at each ⊢
    exact Action.instantiate_list_eq_iff listed scalar defaulted each

/-- A word and a number in a list of texts. -/
theorem load_keeps_list_default_of_tags :
    let tags : FieldDefinition := {
      typeName := some "string"
      isList := true
      default := some (.sequence [.string "a", .integer 7]) }
    let definition : SchemaDefinition := { fields := [("tags", tags)] }
    let document : SchemaDocument := { schemas := [("dc", definition)] }
    let after := ((load document).run.run .initial).2
    ((load document).run.run .initial).1 = .ok () ∧ DeclaredAt definition.fields ["tags"] tags ∧
    [Yaml.Data.string "a", .integer 7].map Yaml.Data.scalarText? = ["a", "7"].map some ∧
    ∃ id list, after.ListOver id list ⟨0⟩ ∧ after.Scalar ⟨0⟩ ∧
      after.resolve (.named Store.initial.registryId ⟨"dc", "#tags#list"⟩) = some id ∧
      ((Action.instantiate id).run after).1 = .list [.string "a", .string "7"] := by
  intro tags definition document after
  have loaded : ((load document).run.run .initial).1 = .ok () := by decide +kernel
  have declaredAt : DeclaredAt definition.fields ["tags"] tags := .here List.mem_cons_self
  have scalars : [Yaml.Data.string "a", .integer 7].map Yaml.Data.scalarText? =
      ["a", "7"].map some := by decide +kernel
  refine ⟨loaded, declaredAt, scalars, ?_⟩
  rcases load_keeps_list_default (run_eq_ok loaded) List.mem_cons_self declaredAt rfl rfl scalars
    with ⟨id, list, reference, -, found, item, used, means, keeps⟩
  have isString : after.primitiveAt? ⟨0⟩ = some .string := by decide +kernel
  have scalar : after.Scalar ⟨0⟩ := (Store.Finds.primitive isString).kind
  have known : after.codec? ⟨0⟩ = some .string := by decide +kernel
  let scope := schemaScope Store.initial.registry Store.initial.registryId "dc" definition
  have itemString : scope.itemReference? ("/".intercalate ["tags"]) tags =
      some (.named Store.initial.registryId ⟨primitiveSchema, "string"⟩) := by decide +kernel
  have own : Generation.list.reference? scope ("/".intercalate ["tags"]) tags =
      some (.named Store.initial.registryId ⟨"dc", "#tags#list"⟩) := by decide +kernel
  have listed : after.ListOver id list ⟨0⟩ := by
    refine .of_list? found ?_
    rw [← Option.some.inj (itemString.symm.trans item)]
    decide +kernel
  refine ⟨id, list, listed, scalar, ?_, ?_⟩
  · have names {admitted : String → Prop} (admits : admitted "tags") :
        FieldNames admitted definition.fields := .cons admits (by decide) .nil .nil
    have once : document.NamesOnce := .of_sole (by decide) (names trivial) (by decide)
    rw [Option.some.inj (own.symm.trans used)]
    have apart : ToldApart definition.fields := .of_unmarked (names (by decide))
    exact means once (apart.isSole declaredAt rfl) (by decide +kernel) fun same => absurd same (by decide)
  · have read (text : String) :
        ((decode ⟨0⟩ (some text)).run.run after).1 = .ok (.string text) := by
      have reads : after.readAs ⟨0⟩ text = .ok (.string text) :=
        (Store.readAs_eq_ok_iff known).mpr rfl
      rw [scalar.run_decode, reads]
    exact (keeps after ⟨0⟩ _ listed scalar (.cons (read "a") (.cons (read "7") .nil))).mpr
      (.inl (by decide))

/-- No items come back as an empty text, and an item with a blank comes back as two. -/
theorem load_splits_list_default :
    let tags (data : List Yaml.Data) : FieldDefinition := {
      typeName := some "string"
      isList := true
      default := some (.sequence data) }
    let document (data : List Yaml.Data) : SchemaDocument := {
      schemas := [("dc", { fields := [("tags", tags data)] })] }
    let after (data : List Yaml.Data) := ((load (document data)).run.run .initial).2
    ((load (document [])).run.run .initial).1 = .ok () ∧
    ((load (document [.string "New York"])).run.run .initial).1 = .ok () ∧
    ∃ id, (∀ data ∈ [[], [.string "New York"]], (after data).resolve
        (.named Store.initial.registryId ⟨"dc", "#tags#list"⟩) = some id) ∧
      ((Action.instantiate id).run (after [])).1 = .list [.string ""] ∧
      ((Action.instantiate id).run (after [.string "New York"])).1 =
        .list [.string "New", .string "York"] := by
  intro tags document after
  have fresh (store : Store) (text : String)
      (isSome : ((store.type? ⟨8⟩).bind DocumentType.list?).isSome = true)
      (holds : ∀ list ∈ (store.type? ⟨8⟩).bind DocumentType.list?,
        list.defaultText = some text ∧ store.resolve list.item.valueType = some ⟨0⟩)
      (isString : store.primitiveAt? ⟨0⟩ = some .string)
      (known : store.codec? ⟨0⟩ = some .string) :
      ((Action.instantiate ⟨8⟩).run store).1 = .list ((splitItems text).map .string) := by
    rcases Option.isSome_iff_exists.mp isSome with ⟨list, found⟩
    rcases holds list found with ⟨defaulted, item⟩
    exact Action.instantiate_list_of_texts (.of_list? found item)
      (Store.Finds.primitive isString).kind known defaulted
  refine ⟨by decide +kernel, by decide +kernel, ⟨8⟩, by decide +kernel, ?_, ?_⟩
  · exact fresh (after []) "" (by decide +kernel) (by decide +kernel) (by decide +kernel)
      (by decide +kernel)
  · exact fresh (after [.string "New York"]) "New York" (by decide +kernel) (by decide +kernel)
      (by decide +kernel) (by decide +kernel)

end Attempt
end DocumentTypes
