import DocumentTypes.Proofs.Filing

/-! # Paths in parts

A path may be walked in two parts: first the front, and then the back from the field that the
front leads to. That comes to the same, unless the front ends at an element of a list. A path
that goes on after an index is still at the list, but one that ends with an index has come to the
item field, and from there the back is another walk. -/

namespace DocumentTypes

namespace Store

def listOf? (store : Store) (field : Field) : Option ListType :=
  ((store.resolve field.valueType).bind store.type?).bind DocumentType.list?

end Store

namespace Action

variable {store middle : Store} {field holder : Field} {list : ListType} {segment next : String}
  {front back : List String}

/-! ## One step -/

/-- Walk on from the field that an action comes to, if it comes to one. -/
def thenWalk (first : Action (Option Field)) (back : List String) : Action (Option Field) := do
  match ← first with
  | some field => walk field back
  | none => return none

def walkParts (field : Field) (front back : List String) : Action (Option Field) :=
  thenWalk (walk field front) back

theorem run_thenWalk_some {first : Action (Option Field)}
    (answer : first.run store = (some field, middle)) :
    (thenWalk first back).run store = (walk field back).run middle := by
  unfold thenWalk
  rw [run_bind, answer]

theorem run_thenWalk_none {first : Action (Option Field)}
    (answer : first.run store = (none, middle)) :
    (thenWalk first back).run store = (none, middle) := by
  unfold thenWalk
  rw [run_bind, answer]
  rfl

theorem run_thenWalk_congr {first other : Action (Option Field)}
    (same : first.run store = other.run middle) (back : List String) :
    (thenWalk first back).run store = (thenWalk other back).run middle := by
  rcases answer : other.run middle with ⟨_ | field, after⟩
  · exact (run_thenWalk_none (same.trans answer)).trans (run_thenWalk_none answer).symm
  · exact (run_thenWalk_some (same.trans answer)).trans (run_thenWalk_some answer).symm

theorem run_thenWalk_parts {first : Action (Option Field)} {whole : List String}
    (inside : ∀ inner after, first.run store = (some inner, after) →
      (walk inner whole).run after = (walkParts inner front back).run after) :
    (thenWalk first whole).run store = (thenWalk (thenWalk first front) back).run store := by
  rcases answer : first.run store with ⟨_ | inner, after⟩
  · exact (run_thenWalk_none answer).trans (run_thenWalk_none (run_thenWalk_none answer)).symm
  · have begun : (thenWalk first front).run store = (walk inner front).run after :=
      run_thenWalk_some answer
    exact (run_thenWalk_some answer).trans
      ((inside inner after answer).trans (run_thenWalk_congr begun back).symm)

theorem run_step_index (holds : store.listOf? field = some list)
    (index : Path.isListIndex segment = true) (isLast : Bool) :
    (step field segment isLast).run store =
      (some (if isLast then list.item else field), store) := by
  rcases Option.bind_eq_some_iff.mp holds with ⟨type, found, isList⟩
  rcases Option.bind_eq_some_iff.mp found with ⟨valueType, resolved, typeFound⟩
  rcases type with ⟨name, base, flags, kind⟩
  cases kind <;> cases isList
  unfold step
  simp only [run_bind, run_resolve, resolved, run_type?, typeFound, Option.map_some, index, if_true]
  rfl

theorem run_step_isLast (ordinary : store.listOf? field = none ∨ Path.isListIndex segment = false)
    (isLast : Bool) :
    (step field segment isLast).run store = (step field segment true).run store := by
  unfold step
  simp only [run_bind, run_resolve]
  cases resolved : store.resolve field.valueType with
  | none => rfl
  | some valueType =>
      simp only [run_bind, run_type?]
      rcases found : store.type? valueType with _ | ⟨name, base, flags, kind⟩
      · rfl
      · cases kind with
        | list list =>
            have noIndex : Path.isListIndex segment = false := by
              refine ordinary.resolve_left ?_
              rw [Store.listOf?, resolved, Option.bind_some, found]
              nofun
            simp only [Option.map_some, noIndex, Bool.false_eq_true, if_false]
        | primitive | simple | complex | composite => rfl

/-! ## Elements -/

/-- A path ends with an index into a list: the field that holds the list, the list, and the store
in which the walk has come there. -/
inductive StopsAtElement (holder : Field) (list : ListType) (middle : Store) :
    Store → Field → List String → Prop
  | here {segment : String} (holds : middle.listOf? holder = some list)
      (index : Path.isListIndex segment = true) :
      StopsAtElement holder list middle middle holder [segment]
  | on {store after : Store} {field inner : Field} {segment first : String} {rest : List String}
      (steps : (step field segment false).run store = (some inner, after))
      (later : StopsAtElement holder list middle after inner (first :: rest)) :
      StopsAtElement holder list middle store field (segment :: first :: rest)

namespace StopsAtElement

theorem holds (stops : StopsAtElement holder list middle store field front) :
    middle.listOf? holder = some list := by
  induction stops with
  | here holds => exact holds
  | on _ _ induction => exact induction

theorem last (stops : StopsAtElement holder list middle store field front) :
    ∃ segment ∈ front.getLast?, Path.isListIndex segment = true := by
  induction stops with
  | here _ index => exact ⟨_, rfl, index⟩
  | on _ _ induction => rwa [List.getLast?_cons_cons]

theorem run_walk (stops : StopsAtElement holder list middle store field front) :
    (walk field front).run store = (some list.item, middle) := by
  induction stops with
  | here holds index => exact run_thenWalk_some (run_step_index holds index true)
  | on steps _ induction => exact (run_thenWalk_some steps).trans induction

theorem run_walk_append (stops : StopsAtElement holder list middle store field front) :
    (walk field (front ++ next :: back)).run store = (walk holder (next :: back)).run middle := by
  induction stops with
  | here holds index => exact run_thenWalk_some (run_step_index holds index false)
  | on steps _ induction => exact (run_thenWalk_some steps).trans induction

end StopsAtElement

/-! ## Whole paths -/

/-- The induction is on the front. Its last step is the only one that might be another one at the
end of a path. -/
theorem run_walk_append (started : front ≠ [])
    (ordinary : ∀ holder list middle, ¬StopsAtElement holder list middle store field front) :
    (walk field (front ++ next :: back)).run store =
      (walkParts field front (next :: back)).run store := by
  induction front generalizing store field with
  | nil => exact absurd rfl started
  | cons segment rest induction =>
      cases rest with
      | nil =>
          have noElement : store.listOf? field = none ∨ Path.isListIndex segment = false := by
            rcases holds : store.listOf? field with _ | list
            · exact .inl rfl
            · exact .inr (Bool.eq_false_iff.mpr fun index => ordinary _ _ _ (.here holds index))
          refine (run_thenWalk_congr (run_step_isLast noElement false) _).trans ?_
          exact run_thenWalk_parts fun inner after _ => (run_thenWalk_some rfl).symm
      | cons first rest =>
          exact run_thenWalk_parts fun inner after steps =>
            induction nofun fun holder list middle stops =>
              ordinary holder list middle (.on steps stops)

end Action

/-! ## Going on from an element -/

/-- A name means the same at a list as at its item field: the items have fields of their own, or
none at all and the name is not that of the items. -/
def Store.NamesAlike (store : Store) (list : ListType) (name : String) : Prop :=
  Path.isListIndex name = false ∧
  ∀ item, store.resolve list.item.valueType = some item →
    (store.complexAt? item).isSome = true ∨
    store.compositeAt? item = none ∧ store.listOf? list.item = none ∧ list.item.localName ≠ name

namespace Action

variable {store : Store} {field holder : Field} {list : ListType} {segment next : String}

theorem run_step_unresolved (absent : store.resolve field.valueType = none) (segment : String)
    (isLast : Bool) : (step field segment isLast).run store = (none, store) := by
  unfold step
  rw [run_bind, run_resolve, absent]
  rfl

theorem run_step_complex {valueType : TypeId}
    (resolved : store.resolve field.valueType = some valueType)
    (isComplex : (store.complexAt? valueType).isSome = true) (segment : String) (isLast : Bool) :
    (step field segment isLast).run store = (lookUp valueType segment).run store := by
  rcases Option.isSome_iff_exists.mp isComplex with ⟨complex, found⟩
  unfold step
  simp only [run_bind, run_resolve, resolved, run_type?, Store.kind_of_complexAt? found]

theorem run_step_plain {valueType : TypeId}
    (resolved : store.resolve field.valueType = some valueType)
    (notComplex : store.complexAt? valueType = none)
    (notComposite : store.compositeAt? valueType = none) (notList : store.listOf? field = none)
    (segment : String) (isLast : Bool) :
    (step field segment isLast).run store = (none, store) := by
  rw [Store.listOf?, resolved, Option.bind_some] at notList
  unfold step
  simp only [run_bind, run_resolve, resolved, run_type?]
  unfold Store.complexAt? at notComplex
  unfold Store.compositeAt? at notComposite
  rcases found : store.type? valueType with _ | ⟨name, base, flags, kind⟩
  · rfl
  · rw [found, Option.bind_some] at notComplex notComposite notList
    cases kind with
    | primitive | simple => rfl
    | complex => cases notComplex
    | composite => cases notComposite
    | list => cases notList

theorem run_step_name (holds : store.listOf? holder = some list)
    (noIndex : Path.isListIndex segment = false) (isLast : Bool) :
    (step holder segment isLast).run store =
      match store.resolve list.item.valueType with
      | none => (none, store)
      | some item =>
        if (store.complexAt? item).isSome then (lookUp item segment).run store
        else (if list.item.localName = segment then some list.item else none, store) := by
  rcases Option.bind_eq_some_iff.mp holds with ⟨type, found, isList⟩
  rcases Option.bind_eq_some_iff.mp found with ⟨valueType, resolved, typeFound⟩
  rcases type with ⟨name, base, flags, kind⟩
  cases kind <;> cases isList
  unfold step
  simp only [run_bind, run_resolve, resolved, run_type?, typeFound, Option.map_some, noIndex,
    Bool.false_eq_true, if_false]
  cases store.resolve list.item.valueType with
  | none => rfl
  | some item =>
      change ((if (store.complexAt? item).isSome = true then lookUp item segment
        else if list.item.localName = segment then pure (some list.item)
        else pure none : Action (Option Field))).run store = _
      by_cases isComplex : (store.complexAt? item).isSome = true
      · simp only [if_pos isComplex]
      · simp only [if_neg isComplex]
        split <;> rfl

theorem run_step_item (holds : store.listOf? holder = some list)
    (alike : store.NamesAlike list next) (isLast : Bool) :
    (step holder next isLast).run store = (step list.item next isLast).run store := by
  rw [run_step_name holds alike.1]
  cases resolved : store.resolve list.item.valueType with
  | none => rw [run_step_unresolved resolved]
  | some item =>
      dsimp only
      by_cases isComplex : (store.complexAt? item).isSome = true
      · rw [if_pos isComplex, run_step_complex resolved isComplex]
      · rcases (alike.2 item resolved).resolve_left isComplex with ⟨notComposite, notList, other⟩
        rw [if_neg isComplex, if_neg other, run_step_plain resolved
          (Option.not_isSome_iff_eq_none.mp isComplex) notComposite notList]

/-- A path that is walked in two parts leads where it leads as a whole, unless the first part
stops at an element of a list. Then the second part is walked from the list in one case and from
its item field in the other, which is the same if it begins with a name that means the same at
both of them. -/
theorem walk_in_parts (store : Store) (field : Field) (first : String) (front : List String)
    (next : String) (back : List String) :
    let whole := (walk field (first :: front ++ next :: back)).run store
    let parts := (walkParts field (first :: front) (next :: back)).run store
    ((∀ holder list middle, ¬StopsAtElement holder list middle store field (first :: front)) →
      whole = parts) ∧
    ∀ holder list middle, StopsAtElement holder list middle store field (first :: front) →
      whole = (walk holder (next :: back)).run middle ∧
      parts = (walk list.item (next :: back)).run middle ∧
      (middle.NamesAlike list next → whole = parts) := by
  intro whole parts
  refine ⟨run_walk_append nofun, fun holder list middle stops => ?_⟩
  have whole_eq : whole = (walk holder (next :: back)).run middle := stops.run_walk_append
  have parts_eq : parts = (walk list.item (next :: back)).run middle :=
    run_thenWalk_some stops.run_walk
  refine ⟨whole_eq, parts_eq, fun alike => ?_⟩
  rw [whole_eq, parts_eq]
  exact run_thenWalk_congr (run_step_item stops.holds alike _) back

/-- An album has files, each with a title. From the album to the files and on to one of them, or
from the files to one of them and on to its title: the parts lead where the whole path leads. -/
theorem walk_in_parts_of_files :
    let declared (name : String) (type : Nat) : FieldDeclaration :=
      ⟨name, .direct ⟨type⟩ ⟨"s", "t"⟩, none, 0, 1, 1⟩
    let store := Store.following [
      .build ⟨⟨"s", "file"⟩, .null, 0, .complex .none none [declared "title" 0]⟩,
      .build ⟨⟨"s", "files"⟩, .null, 0, .list (.direct ⟨8⟩ ⟨"s", "file"⟩) (some "file") none 0 (-1)⟩,
      .build ⟨⟨"s", "album"⟩, .null, 0, .complex .none none [declared "files" 9]⟩]
    let field (name : String) (type : Nat) : Field :=
      ⟨⟨11⟩, 0, ⟨"s", "top"⟩, ⟨"", name⟩, .direct ⟨type⟩ ⟨"s", "t"⟩, none, 0, 1, 1⟩
    let whole (field : Field) (front back : List String) := (walk field (front ++ back)).run store
    let parts (field : Field) (front back : List String) := (walkParts field front back).run store
    (whole (field "album" 10) ["files"] ["0"] = parts (field "album" 10) ["files"] ["0"] ∧
      (whole (field "album" 10) ["files"] ["0"]).1.map Field.localName = some "file") ∧
    (whole (field "files" 9) ["0"] ["title"] = parts (field "files" 9) ["0"] ["title"] ∧
      (whole (field "files" 9) ["0"] ["title"]).1.map Field.localName = some "title") := by
  intro declared store field whole parts
  have plain : ∀ holder list middle,
      ¬StopsAtElement holder list middle store (field "album" 10) ["files"] := by
    intro _ _ _ stops
    rcases stops.last with ⟨segment, ⟨⟩, index⟩
    exact absurd index (by decide +kernel)
  have holdsFiles : ∃ list ∈ store.listOf? (field "files" 9),
      list.item.valueType = .direct ⟨8⟩ ⟨"s", "file"⟩ := by decide +kernel
  rcases holdsFiles with ⟨list, holds, itemType⟩
  have stops : StopsAtElement (field "files" 9) list store store (field "files" 9) ["0"] :=
    .here holds (by decide +kernel)
  have alike : store.NamesAlike list "title" := by
    refine ⟨by decide +kernel, fun item resolved => .inl ?_⟩
    have target : store.resolve (.direct ⟨8⟩ ⟨"s", "file"⟩) = some ⟨8⟩ := by decide +kernel
    rw [itemType, target] at resolved
    cases resolved
    decide +kernel
  refine ⟨⟨?_, by decide +kernel⟩, ?_, by decide +kernel⟩
  · exact (walk_in_parts store (field "album" 10) "files" [] "0" []).1 plain
  · exact ((walk_in_parts store (field "files" 9) "0" [] "title" []).2 _ _ _ stops).2.2 alike

/-- After an index into a list of composites their fields are not found, although the element has
them. After one into a list of lists another index leads to an item of the outer list, not of the
inner one. And after one into a list of texts the name of the items still leads to the item, as if
the item had such a field. -/
theorem walk_misses_element :
    let text : TypeRef := .named Store.initial.registryId ⟨"system", "string"⟩
    let list (name itemName : String) (item : TypeRef) : Operation :=
      .build ⟨⟨"s", name⟩, .null, 0, .list item (some itemName) none 0 (-1)⟩
    let store := Store.following [
      .build ⟨⟨"dc", "dc"⟩, .null, 0, .complex .none none [⟨"title", text, none, 0, 1, 1⟩]⟩,
      .build ⟨⟨"s", "card"⟩, .null, 0, .composite [.direct ⟨8⟩ ⟨"dc", "dc"⟩]⟩,
      list "cards" "card" (.direct ⟨9⟩ ⟨"s", "card"⟩), list "tags" "tag" text,
      list "rows" "row" (.direct ⟨11⟩ ⟨"s", "tags"⟩)]
    let field (name : String) (type : Nat) : Field :=
      ⟨⟨13⟩, 0, ⟨"s", "album"⟩, ⟨"", name⟩, .direct ⟨type⟩ ⟨"s", name⟩, none, 0, 1, 1⟩
    let whole (field : Field) (front back : List String) : Option String :=
      ((walk field (front ++ back)).run store).1.map Field.localName
    let parts (field : Field) (front back : List String) : Option String :=
      ((walkParts field front back).run store).1.map Field.localName
    (whole (field "cards" 10) ["0"] ["title"] = none ∧
      parts (field "cards" 10) ["0"] ["title"] = some "title") ∧
    (whole (field "rows" 12) ["0"] ["1"] = some "row" ∧
      parts (field "rows" 12) ["0"] ["1"] = some "tag") ∧
    (whole (field "tags" 11) ["0"] ["tag"] = some "tag" ∧
      parts (field "tags" 11) ["0"] ["tag"] = none) := by
  decide +kernel

end Action
end DocumentTypes
