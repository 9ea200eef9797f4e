import DocumentTypes.Proofs.ListIndexes
import DocumentTypes.Proofs.ShownFields

/-! # Paths through elements

Which element of a list a path goes through does not matter, as all of them have the same fields.
An index may stand anywhere in a path, though, also where there is no list: at a type with fields
it is looked for like a name. Where no field is named like an index, all indexes lead nowhere
there, and they lead to the same elsewhere. -/

namespace DocumentTypes

namespace Path

variable {path other : String} {parts others : List String}

def SameElement (segment other : String) : Prop :=
  segment = other ∨ isListIndex segment = true ∧ isListIndex other = true

theorem replaced_of_isListIndex {index : String} (read : isListIndex index = true) :
    replaced index = index :=
  replaced_of_plain fun member => absurd (isDelimiter_of_isListIndex read member) (by decide)

/-! ## Canonical paths -/

theorem relative_of_slash {rest : List Char} (starts : path.toList = '/' :: rest) :
    relative path = String.ofList rest := by
  unfold relative
  split
  next others same => rw [(List.cons.inj (starts.symm.trans same)).2]
  next none => exact absurd starts (none rest)

theorem relative_of_not_slash (starts : ∀ rest, path.toList ≠ '/' :: rest) :
    relative path = path := by
  unfold relative
  split
  next rest slash => exact absurd slash (starts rest)
  next => rfl

theorem segments_of_slash {rest : List Char} (starts : path.toList = '/' :: rest) :
    segments path = "" :: segments (String.ofList rest) := by
  have parts : path = "" ++ "/" ++ String.ofList rest := by
    rw [← String.toList_inj, starts]
    simp
  rw [parts, segments_append]
  rfl

theorem segments_ne_nil (path : String) : segments path ≠ [] := by
  unfold segments splitOn
  rw [splitChars_eq_splitOn, Ne, List.map_eq_nil_iff]
  exact List.splitOn_ne_nil _ _

theorem canonical_eq_self_iff : canonical path = path ↔
    (∀ next back, segments path ≠ "" :: next :: back) ∧
      ∀ segment ∈ segments path, replaced segment = segment := by
  have text (path : String) : "/".intercalate (segments path) = path := intercalate_splitOn '/' path
  constructor
  · intro settled
    have divided : (segments (relative path)).map replaced = segments path := by
      rw [← segments_replaced, ← canonical_eq, settled]
    by_cases slash : ∃ rest, path.toList = '/' :: rest
    · rcases slash with ⟨rest, starts⟩
      -- One segment would be lost.
      have lengths := congrArg List.length divided
      rw [segments_of_slash starts, relative_of_slash starts, List.length_map,
        List.length_cons] at lengths
      omega
    · rw [relative_of_not_slash fun rest starts => slash ⟨rest, starts⟩] at divided
      refine ⟨fun next back parts => slash ?_, ?_⟩
      · have joined := text path
        rw [parts, String.intercalate_cons_cons] at joined
        exact ⟨("/".intercalate (next :: back)).toList, by rw [← joined]; simp⟩
      · exact List.map_eq_map_iff.mp (divided.trans (List.map_id _).symm)
  · rintro ⟨noSlash, settled⟩
    have unchanged : relative path = path := by
      refine relative_of_not_slash fun rest starts => ?_
      rcases List.exists_cons_of_ne_nil (segments_ne_nil (String.ofList rest)) with
        ⟨next, back, parts⟩
      exact noSlash next back (parts ▸ segments_of_slash starts)
    have divided : segments (replaced path) = segments path := by
      rw [segments_replaced]
      exact (List.map_congr_left settled).trans (List.map_id _)
    rw [canonical_eq, unchanged, ← text (replaced path), divided, text]

theorem canonical_of_sameElements (settled : canonical path = path)
    (same : List.Forall₂ SameElement (segments path) (segments other)) :
    canonical other = other := by
  rcases canonical_eq_self_iff.mp settled with ⟨noSlash, unchanged⟩
  refine canonical_eq_self_iff.mpr ⟨fun next back parts => ?_, fun segment member => ?_⟩
  · rw [parts] at same
    generalize pathParts : segments path = parts at same
    rcases same with _ | @⟨first, _, _, _, here, _ | _⟩
    rcases here with rfl | ⟨-, read⟩
    · exact noSlash _ _ pathParts
    · exact absurd read (by decide)
  · rcases exists_left_of_forall₂ same member with ⟨earlier, earlierMember, here⟩
    rcases here with rfl | ⟨-, read⟩
    · exact unchanged earlier earlierMember
    · exact replaced_of_isListIndex read

theorem canonical_of_without {first index segment : String} {front back : List String}
    (settled : canonical path = path)
    (parts : segments path = first :: front ++ index :: segment :: back)
    (shorter : segments other = first :: front ++ segment :: back) : canonical other = other := by
  rcases canonical_eq_self_iff.mp settled with ⟨noSlash, unchanged⟩
  rw [parts] at noSlash unchanged
  refine canonical_eq_self_iff.mpr ⟨fun next rest starts => ?_, fun part member => ?_⟩
  · cases (List.cons.inj (shorter.symm.trans starts)).1
    cases front with
    | nil => exact noSlash _ _ rfl
    | cons second others => exact noSlash _ _ rfl
  · refine unchanged part ?_
    rw [shorter] at member
    simp only [List.mem_append, List.mem_cons] at member ⊢
    tauto

end Path

/-- No field that is reached from a field is named like an index. -/
def Store.IndexFreeBehind (store : Store) (field : Field) : Prop :=
  ∀ valueType, store.resolve field.valueType = some valueType → store.IndexFree valueType

namespace Action

open Store (Narrows IndexFree)

variable {store after middle : Store} {id : TypeId} {field next : Field} {list : ListType}
  {index other : String}

/-! ## Looking up an index -/

theorem find?_index {complex : ComplexType} (keyed : complex.Keyed)
    (read : Path.isListIndex index = true)
    (unnamed : ∀ field ∈ complex.fields.values, Path.isListIndex field.localName = false) :
    complex.find? index = none := by
  have bare := Path.colon_notMem_of_isListIndex read
  rw [← Option.not_isSome_iff_eq_none, keyed.isSome_find?_of_bare bare, complex.shown_of_bare bare]
  rw [Bool.not_eq_true, Option.isSome_eq_false_iff, Option.isNone_iff_eq_none,
    List.getLast?_eq_none_iff, ComplexType.namesakes, List.filter_eq_nil_iff]
  intro field member same
  have indexed := unnamed field member
  rw [beq_iff_eq.mp same, read] at indexed
  cases indexed

/-- Where no field is named like an index, none is found under an index. To look for one does to a
type what reading it does. -/
theorem run_lookUp_index (orderly : store.Orderly) (indexed : store.Indexed)
    (indexFree : store.IndexFree id) (read : Path.isListIndex index = true) :
    (lookUp id index).run store = (none, ((snapshotOf id).run store).2) := by
  rcases found : store.compositeAt? id with _ | composite
  · have unread : ((snapshotOf id).run store).2 = store := by
      have absent : (store.type? id).bind DocumentType.composite? = none := found
      simp only [snapshotOf, run_bind, run_type?, absent]
      rfl
    rw [unread]
    rcases complexFound : store.complexAt? id with _ | complex
    · exact run_lookUp_plain complexFound found index
    · have inOrder := orderly id complex complexFound
      have absent : complex.find? index = none :=
        find?_index inOrder.keyed read fun field member =>
          indexFree.shows (.declared complexFound member)
      have looked : complex.lookUp index = (complex, none) := by
        cases known : complex.lookups.get? index with
        | some field => cases absent.symm.trans (inOrder.remembers index field known)
        | none => simp only [ComplexType.lookUp, known, absent]
      rcases Store.type_of_complexAt? complexFound with ⟨type, typeFound, kind⟩
      rw [run_lookUp_complex complexFound, looked, ← kind, Store.setKind_self typeFound]
  · rw [run_lookUp_composite found, indexed_shown indexed id index]
    refine Prod.ext (List.find?_eq_none.mpr fun field member => ?_) rfl
    have unnamed := indexFree.shows
      ((narrows_snapshotOf id store).2 field (List.mem_reverse.mp member))
    rw [Field.isShownAs_of_bare (Path.colon_notMem_of_isListIndex read), beq_iff_eq]
    rintro rfl
    cases read.symm.trans unnamed

/-! ## Steps -/

theorem run_step_composite {valueType : TypeId} {composite : CompositeType}
    (resolved : store.resolve field.valueType = some valueType)
    (found : store.compositeAt? valueType = some composite) (segment : String) (isLast : Bool) :
    (step field segment isLast).run store = (lookUp valueType segment).run store := by
  unfold step
  simp only [run_bind, run_resolve, resolved, run_type?, Store.kind_of_compositeAt? found]

/-- What a step does depends on what the field holds: a list, another type with fields, or
neither. -/
theorem run_step_cases (store : Store) (field : Field) :
    (∃ list, store.listOf? field = some list) ∨
    (∃ valueType, store.resolve field.valueType = some valueType ∧ ∀ segment isLast,
      (step field segment isLast).run store = (lookUp valueType segment).run store) ∨
    ∀ segment isLast, (step field segment isLast).run store = (none, store) := by
  cases holds : store.listOf? field with
  | some list => exact .inl ⟨list, rfl⟩
  | none =>
      cases resolved : store.resolve field.valueType with
      | none => exact .inr (.inr (run_step_unresolved resolved))
      | some valueType =>
          cases complexFound : store.complexAt? valueType with
          | some complex =>
              exact .inr (.inl ⟨valueType, rfl,
                run_step_complex resolved (Option.isSome_of_eq_some complexFound)⟩)
          | none =>
              cases found : store.compositeAt? valueType with
              | some composite =>
                  exact .inr (.inl ⟨valueType, rfl, run_step_composite resolved found⟩)
              | none =>
                  exact .inr (.inr (run_step_plain resolved complexFound found holds))

theorem run_step_lookUp {valueType : TypeId}
    (resolved : store.resolve field.valueType = some valueType)
    (notList : store.listOf? field = none) (segment : String) (isLast : Bool) :
    (step field segment isLast).run store = (lookUp valueType segment).run store := by
  cases complexFound : store.complexAt? valueType with
  | some complex =>
      exact run_step_complex resolved (Option.isSome_of_eq_some complexFound) segment isLast
  | none =>
      cases found : store.compositeAt? valueType with
      | some composite => exact run_step_composite resolved found segment isLast
      | none => rw [run_step_plain resolved complexFound found notList,
          run_lookUp_plain complexFound found]

/-- From one element of a list as from another: an index is as good as any other. -/
theorem run_step_sameElement (orderly : store.Orderly) (indexed : store.Indexed)
    (indexFree : store.IndexFreeBehind field) {segment other : String}
    (same : Path.SameElement segment other) (isLast : Bool) :
    (step field segment isLast).run store = (step field other isLast).run store := by
  rcases same with rfl | ⟨read, otherRead⟩
  · rfl
  · rcases run_step_cases store field with ⟨list, holds⟩ | ⟨valueType, resolved, run⟩ | run
    · rw [run_step_index holds read, run_step_index holds otherRead]
    · rw [run, run, run_lookUp_index orderly indexed (indexFree valueType resolved) read,
        run_lookUp_index orderly indexed (indexFree valueType resolved) otherRead]
    · rw [run, run]

theorem indexFree_lookUp (orderly : store.Orderly) (indexed : store.Indexed)
    (indexFree : store.IndexFree id) {name : String}
    (answer : (lookUp id name).run store = (some next, after)) : after.IndexFreeBehind next := by
  rcases narrows_lookUp orderly indexed id name with ⟨narrows, shown⟩
  rw [answer] at narrows shown
  intro valueType resolved
  refine narrows.indexFree (indexFree.leads (.field (shown next rfl) ?_))
  exact narrows.steady.resolve resolved

theorem indexFree_step (orderly : store.Orderly) (indexed : store.Indexed)
    (indexFree : store.IndexFreeBehind field) {segment : String} {isLast : Bool}
    (answer : (step field segment isLast).run store = (some next, after)) :
    after.IndexFreeBehind next := by
  rcases run_step_cases store field with ⟨list, holds⟩ | ⟨valueType, resolved, run⟩ | run
  · rcases Option.bind_eq_some_iff.mp holds with ⟨type, typeAt, isList⟩
    rcases Option.bind_eq_some_iff.mp typeAt with ⟨valueType, resolved, typeFound⟩
    have items : store.IndexFreeBehind list.item := by
      intro item itemResolved
      refine (indexFree valueType resolved).leads (.item ?_)
      rw [Store.item?, Store.along, typeFound, Option.bind_some, Store.itemReference?, isList]
      exact itemResolved
    cases read : Path.isListIndex segment with
    | true =>
        rw [run_step_index holds read] at answer
        rcases Prod.mk.inj answer with ⟨answered, rfl⟩
        cases isLast <;> cases answered
        · exact indexFree
        · exact items
    | false =>
        rw [run_step_name holds read] at answer
        split at answer
        · cases answer
        next item itemResolved =>
          split at answer
          · exact indexFree_lookUp orderly indexed (items item itemResolved) answer
          · split at answer
            · cases answer
              exact items
            · cases answer
  · rw [run] at answer
    exact indexFree_lookUp orderly indexed (indexFree valueType resolved) answer
  · rw [run] at answer
    cases answer

/-! ## Walks -/

theorem run_walk_sameElements {segments others : List String}
    (same : List.Forall₂ Path.SameElement segments others) (orderly : store.Orderly)
    (indexed : store.Indexed) (indexFree : store.IndexFreeBehind field) :
    (walk field segments).run store = (walk field others).run store := by
  induction same generalizing store field with
  | nil => rfl
  | @cons segment other rest othersRest here later induction =>
      have isLast : othersRest.isEmpty = rest.isEmpty := by cases later <;> rfl
      change (thenWalk (step field segment rest.isEmpty) rest).run store =
        (thenWalk (step field other othersRest.isEmpty) othersRest).run store
      have steps := run_step_sameElement orderly indexed indexFree here rest.isEmpty
      rw [isLast]
      rcases answer : (step field other rest.isEmpty).run store with ⟨_ | next, after⟩
      · rw [run_thenWalk_none (steps.trans answer), run_thenWalk_none answer]
      · rw [run_thenWalk_some (steps.trans answer), run_thenWalk_some answer]
        have observed := observes_step field other rest.isEmpty store
        have stillIndexed := keptByReads_indexed.step field other rest.isEmpty store indexed
        rw [answer] at observed stillIndexed
        exact induction (orderly.observed observed) stillIndexed
          (indexFree_step orderly indexed indexFree answer)

theorem run_along_sameElements {segments others : List String}
    (same : List.Forall₂ Path.SameElement segments others) (orderly : store.Orderly)
    (indexed : store.Indexed) (indexFree : store.IndexFree id) :
    (along id segments).run store = (along id others).run store := by
  cases same with
  | nil => rfl
  | @cons segment other rest othersRest here later =>
      change (thenWalk (lookUp id segment) rest).run store =
        (thenWalk (lookUp id other) othersRest).run store
      have lookups : (lookUp id segment).run store = (lookUp id other).run store := by
        rcases here with rfl | ⟨read, otherRead⟩
        · rfl
        · rw [run_lookUp_index orderly indexed indexFree read,
            run_lookUp_index orderly indexed indexFree otherRead]
      rcases answer : (lookUp id other).run store with ⟨_ | next, after⟩
      · rw [run_thenWalk_none (lookups.trans answer), run_thenWalk_none answer]
      · rw [run_thenWalk_some (lookups.trans answer), run_thenWalk_some answer]
        have observed := observes_lookUp id other store
        have stillIndexed := indexed_lookUp id other store indexed
        rw [answer] at observed stillIndexed
        exact run_walk_sameElements later (orderly.observed observed) stillIndexed
          (indexFree_lookUp orderly indexed indexFree answer)

/-! ## Lists on the way -/

/-- The field that a walk has come to after the first segments of a path, when more of them
follow. -/
def approach (field : Field) : List String → Action (Option Field)
  | [] => return some field
  | segment :: rest => do
    match ← step field segment false with
    | some next => approach next rest
    | none => return none

def approachFrom (id : TypeId) : List String → Action (Option Field)
  | [] => return none
  | first :: rest => do
    match ← lookUp id first with
    | some field => approach field rest
    | none => return none

variable {front back : List String} {holder : Field} {segment : String}

theorem run_walk_approach (reached : (approach field front).run store = (some holder, middle)) :
    (walk field (front ++ segment :: back)).run store =
      (walk holder (segment :: back)).run middle := by
  induction front generalizing store field with
  | nil =>
      cases reached
      rfl
  | cons first rest induction =>
      have later : (rest ++ segment :: back).isEmpty = false := by cases rest <;> rfl
      change (thenWalk (step field first (rest ++ segment :: back).isEmpty) _).run store = _
      unfold approach at reached
      rw [run_bind] at reached
      rw [later]
      rcases answer : (step field first false).run store with ⟨_ | next, after⟩
      · rw [answer] at reached
        cases reached
      · rw [answer] at reached
        exact (run_thenWalk_some answer).trans (induction reached)

theorem run_along_approach (reached : (approachFrom id front).run store = (some holder, middle)) :
    (along id (front ++ segment :: back)).run store = (walk holder (segment :: back)).run middle := by
  cases front with
  | nil => cases reached
  | cons first rest =>
      change (thenWalk (lookUp id first) (rest ++ segment :: back)).run store = _
      unfold approachFrom at reached
      rw [run_bind] at reached
      rcases answer : (lookUp id first).run store with ⟨_ | next, after⟩
      · rw [answer] at reached
        cases reached
      · rw [answer] at reached
        exact (run_thenWalk_some answer).trans (run_walk_approach reached)

/-- An index at a list on the way may as well be left out. -/
theorem run_along_without (reached : (approachFrom id front).run store = (some holder, middle))
    (holds : middle.listOf? holder = some list) (read : Path.isListIndex index = true)
    (segment : String) (back : List String) :
    (along id (front ++ segment :: back)).run store =
      (along id (front ++ index :: segment :: back)).run store := by
  rw [run_along_approach reached, run_along_approach reached]
  exact (run_thenWalk_some (run_step_index holds read false)).symm

/-- Which element a path goes through does not matter, where no field that is reached from the type
is named like an index. Whatever has happened before, indexes in a canonical path may be exchanged
for others without leading to another field, and one at a list on the way may be left out. -/
theorem fieldAt_any_element (events : List Event) {id : TypeId} {path : String}
    (indexFree : (Store.initial.after events).IndexFree id) (settled : Path.canonical path = path) :
    let store := Store.initial.after events
    (∀ other, List.Forall₂ Path.SameElement (Path.segments path) (Path.segments other) →
      (fieldAt id other).run store = (fieldAt id path).run store) ∧
    ∀ shorter front index segment back holder list middle,
      Path.segments path = front ++ index :: segment :: back → Path.isListIndex index = true →
      (approachFrom id front).run store = (some holder, middle) →
      middle.listOf? holder = some list → Path.segments shorter = front ++ segment :: back →
      (fieldAt id shorter).run store = (fieldAt id path).run store := by
  intro store
  have orderly := Store.orderly_after events
  have indexed := Store.indexed_after events
  refine ⟨fun other same => ?_, ?_⟩
  · have otherSettled := Path.canonical_of_sameElements settled same
    rw [fieldAt_eq, fieldAt_eq, settled, otherSettled]
    exact (run_along_sameElements same orderly indexed indexFree).symm
  · intro shorter front index segment back holder list middle parts read reached holds without
    cases front with
    | nil => cases reached
    | cons first rest =>
        have shorterSettled := Path.canonical_of_without settled parts without
        rw [fieldAt_eq, fieldAt_eq, settled, shorterSettled, parts, without]
        exact run_along_without reached holds read segment back

/-- The title of any file, and of the files. -/
theorem fieldAt_any_element_of_files :
    let declared (name : String) (type : TypeRef) : FieldDeclaration :=
      ⟨name, type, none, 0, 1, 1⟩
    let text : TypeRef := .named Store.initial.registryId ⟨"system", "string"⟩
    let events : List Event := [
      .operate (.build ⟨⟨"s", "file"⟩, .null, 0, .complex .none none [declared "title" text]⟩),
      .operate (.build
        ⟨⟨"s", "files"⟩, .null, 0, .list (.direct ⟨8⟩ ⟨"s", "file"⟩) (some "file") none 0 (-1)⟩),
      .operate (.build ⟨⟨"s", "album"⟩, .null, 0,
        .complex .none none [declared "files" (.direct ⟨9⟩ ⟨"s", "files"⟩)]⟩)]
    let store := Store.initial.after events
    (fieldAt ⟨10⟩ "files/*/title").run store = (fieldAt ⟨10⟩ "files/3/title").run store ∧
    (fieldAt ⟨10⟩ "files/title").run store = (fieldAt ⟨10⟩ "files/3/title").run store ∧
    ((fieldAt ⟨10⟩ "files/3/title").run store).1.map Field.localName = some "title" := by
  intro declared text events store
  have indexFree : store.IndexFree ⟨10⟩ :=
    .of_types (by decide +kernel) (by decide +kernel) ⟨10⟩
  have settled : Path.canonical "files/3/title" = "files/3/title" := by decide +kernel
  have parts : Path.segments "files/3/title" = ["files", "3", "title"] := by decide +kernel
  have everyParts : Path.segments "files/*/title" = ["files", "*", "title"] := by decide +kernel
  have same : List.Forall₂ Path.SameElement ["files", "3", "title"] ["files", "*", "title"] :=
    .cons (.inl rfl) (.cons (.inr ⟨by decide +kernel, by decide⟩) (.cons (.inl rfl) .nil))
  have holdsFiles : ∃ holder ∈ ((approachFrom ⟨10⟩ ["files"]).run store).1,
      (((approachFrom ⟨10⟩ ["files"]).run store).2.listOf? holder).isSome = true := by
    decide +kernel
  generalize answer : (approachFrom ⟨10⟩ ["files"]).run store = outcome at holdsFiles
  rcases outcome with ⟨reached, middle⟩
  rcases holdsFiles with ⟨holder, rfl, isList⟩
  rcases Option.isSome_iff_exists.mp isList with ⟨list, holds⟩
  rcases fieldAt_any_element events indexFree settled with ⟨exchanged, without⟩
  have every := exchanged "files/*/title" (by rwa [parts, everyParts])
  refine ⟨every, ?_, by decide +kernel⟩
  exact without "files/title" ["files"] "3" "title" [] holder list middle parts (by decide +kernel)
    answer holds (by decide +kernel)

end Action
end DocumentTypes
