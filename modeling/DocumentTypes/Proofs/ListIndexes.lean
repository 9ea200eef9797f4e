import DocumentTypes.Proofs.CanonicalPaths
import DocumentTypes.Proofs.PathParts

/-! # Indexes of lists

An index is recognized twice: as what stands in brackets behind a name, and as a segment at a
list. What brackets hold is a run of digits of any script and any length; a segment is an index
only as a number of 64 bits in ASCII digits. Where both agree, an indexed name leads to the items
of a list like the asterisk does. -/

namespace DocumentTypes

namespace Path

variable {name index path part : String}

/-! ## Behind a name -/

theorem isIndex_of_replaced (plain : ∀ character ∈ name.toList, isDelimiter character = false)
    (unopened : '[' ∉ index.toList) (unclosed : ']' ∉ index.toList)
    (becomes : replaced (name ++ "[" ++ index ++ "]") = index) : IsIndex index.toList := by
  by_contra noIndex
  have characters : (name ++ "[" ++ index ++ "]").toList =
      name.toList ++ '[' :: (index.toList ++ ']' :: []) := by simp
  have none : ∀ inner back, IsIndex inner → name.toList.reverse ++ [] ≠ [] → '[' = '[' →
      index.toList ++ ']' :: [] ≠ inner ++ ']' :: back := by
    intro inner back isIndex _ _ parts
    rcases (List.append_cons_inj_of_notMem unclosed List.not_mem_nil).mp parts with ⟨rfl, -, -⟩
    exact noIndex isIndex
  -- The opening bracket is left where it is, and so the result holds it.
  rw [replaced, characters, replaceIndexed_names plain, replaceIndexed_delimiter rfl none] at becomes
  exact unopened (becomes ▸ by simp)

theorem isListIndex_iff : isListIndex index = true ↔
    index = wildcard ∨ ∃ value, Decimal.readInt? index = some value ∧
      -Int.pow 2 63 ≤ value ∧ value ≤ Int.pow 2 63 - 1 := by
  rw [isListIndex, Bool.or_eq_true, beq_iff_eq, Option.isSome_iff_exists]
  simp only [Decimal.readIntWithin?_eq_some_iff]

theorem mem_of_isListIndex {character : Char} (read : isListIndex index = true)
    (member : character ∈ index.toList) :
    character ∈ ['*', '-', '+'] ∨ character.isDigit = true := by
  rcases isListIndex_iff.mp read with rfl | ⟨value, found, -⟩
  · exact .inl (List.mem_cons.mpr (.inl (List.mem_singleton.mp member)))
  · rcases Decimal.digits_of_readInt? found with ⟨digits, magnitude, readDigits, text⟩
    have digit (inside : character ∈ digits) : character.isDigit = true :=
      (Decimal.digits_of_readDigits? readDigits).1 character inside
    rcases text with ⟨text, -⟩ | text | ⟨text, -⟩
    all_goals rw [text] at member
    · rcases List.mem_cons.mp member with rfl | inside
      · exact .inl (by decide)
      · exact .inr (digit inside)
    · rcases List.mem_cons.mp member with rfl | inside
      · exact .inl (by decide)
      · exact .inr (digit inside)
    · exact .inr (digit member)

theorem isDelimiter_of_isDigit {character : Char} (digit : character.isDigit = true) :
    isDelimiter character = false := by
  by_contra delimits
  simp only [isDelimiter, Bool.not_eq_false, Bool.or_eq_true, beq_iff_eq] at delimits
  rcases delimits with (rfl | rfl) | rfl <;> cases digit

theorem isDelimiter_of_isListIndex {character : Char} (read : isListIndex index = true)
    (member : character ∈ index.toList) : isDelimiter character = false := by
  rcases mem_of_isListIndex read member with sign | digit
  · simp only [List.mem_cons, List.not_mem_nil, or_false] at sign
    rcases sign with rfl | rfl | rfl <;> rfl
  · exact isDelimiter_of_isDigit digit

theorem colon_notMem_of_isListIndex (read : isListIndex index = true) : ':' ∉ index.toList := by
  intro member
  rcases mem_of_isListIndex read member with sign | digit
  · exact absurd sign (by decide)
  · cases digit

theorem IsIndex.isListIndex_iff (isIndex : IsIndex index.toList) : isListIndex index = true ↔
    index = wildcard ∨ (∀ character ∈ index.toList, character.isDigit = true) ∧
      Nat.ofDigitChars 10 index.toList 0 < Nat.pow 2 63 := by
  have limit : Int.pow 2 63 = (Nat.pow 2 63 : Nat) := rfl
  rw [Path.isListIndex_iff, limit]
  generalize Nat.pow 2 63 = limit
  refine or_congr_right' fun other => ?_
  have digits : index ≠ "" ∧ ∀ character ∈ index.toList,
      Unicode.isDecimalDigit character = true := by
    generalize characters : index.toList = text at isIndex
    cases isIndex with
    | every => exact absurd (String.toList_inj.mp characters) other
    | digits given digits => exact ⟨fun empty => given (by simp [← characters, empty]), digits⟩
  constructor
  · rintro ⟨value, read, least, greatest⟩
    rcases Decimal.digits_of_readInt? read with ⟨characters, magnitude, readDigits, text⟩
    rcases Decimal.digits_of_readDigits? readDigits with ⟨isDigit, rfl⟩
    rcases text with ⟨text, -⟩ | text | ⟨rfl, rfl⟩
    · exact absurd (digits.2 '-' (text ▸ List.mem_cons_self)) (by decide)
    · exact absurd (digits.2 '+' (text ▸ List.mem_cons_self)) (by decide)
    · exact ⟨isDigit, by omega⟩
  · rintro ⟨isDigit, small⟩
    exact ⟨_, Decimal.readInt?_of_digits digits.1 isDigit, by omega, by omega⟩

/-! ## Behind a path -/

theorem segments_append (front back : String) :
    segments (front ++ "/" ++ back) = segments front ++ segments back := by
  have characters : (front ++ "/" ++ back).toList = front.toList ++ '/' :: back.toList := by simp
  unfold segments splitOn
  rw [characters, ← List.map_append, splitChars_eq_splitOn, splitChars_eq_splitOn,
    splitChars_eq_splitOn]
  simp only [List.splitOn_eq_splitOnP]
  exact congrArg _ (List.splitOnP_append_cons _ _ (beq_self_eq_true '/'))

theorem relative_append (given : path ≠ "") (behind : String) :
    relative (path ++ behind) = relative path ++ behind := by
  rcases List.exists_cons_of_ne_nil (by simpa using given : path.toList ≠ []) with
    ⟨first, rest, characters⟩
  have longer : (path ++ behind).toList = first :: (rest ++ behind.toList) := by
    rw [String.toList_append, characters, List.cons_append]
  unfold relative
  rw [characters, longer]
  by_cases slash : first = '/'
  · subst slash
    rw [← String.toList_inj]
    simp
  · simp [slash]

theorem segments_canonical_append (given : path ≠ "") (unseparated : '/' ∉ part.toList) :
    segments (canonical (path ++ "/" ++ part)) = segments (canonical path) ++ [replaced part] := by
  have single : segments part = [part] := splitOn_of_notMem unseparated
  rw [canonical_eq, canonical_eq, segments_replaced, segments_replaced, String.append_assoc,
    relative_append given, ← String.append_assoc, segments_append, List.map_append, single,
    List.map_singleton]

theorem canonical_of_named (named : name ≠ "")
    (plain : ∀ character ∈ name.toList, isDelimiter character = false) (behind : String) :
    canonical (name ++ behind) = replaced (name ++ behind) := by
  rcases List.exists_cons_of_ne_nil (by simpa using named : name.toList ≠ []) with
    ⟨first, rest, characters⟩
  have slash : first ≠ '/' := by
    rintro rfl
    exact absurd (plain '/' (characters ▸ List.mem_cons_self)) (by decide)
  rw [canonical_eq]
  unfold relative
  rw [String.toList_append, characters, List.cons_append]
  simp [slash]

end Path

/-! ## At a list -/

namespace Action

variable {store middle : Store} {holder : Field} {list : ListType} {id : TypeId}
  {front : List String} {name index : String}

def along (id : TypeId) : List String → Action (Option Field)
  | [] => return none
  | first :: rest => thenWalk (lookUp id first) rest

theorem fieldAt_eq (id : TypeId) (path : String) :
    fieldAt id path = along id (Path.segments (Path.canonical path)) := by
  unfold fieldAt along thenWalk
  cases Path.segments (Path.canonical path) <;> rfl

/-- Behind a path to a list any index leads to the same field. That is the item field of the list,
unless the list is itself an element that the path stops at. -/
theorem run_along_index (reached : (along id front).run store = (some holder, middle))
    (holds : middle.listOf? holder = some list) :
    ∃ item, (item = list.item ∨ item = holder) ∧ ∀ index, Path.isListIndex index = true →
      (along id (front ++ [index])).run store = (some item, middle) := by
  cases front with
  | nil => cases reached
  | cons first rest =>
      change (thenWalk (lookUp id first) rest).run store = _ at reached
      change ∃ item, _ ∧ ∀ index, _ → (thenWalk (lookUp id first) (rest ++ [index])).run store = _
      rcases answer : (lookUp id first).run store with ⟨_ | field, after⟩
      · cases (run_thenWalk_none answer).symm.trans reached
      · have walked := (run_thenWalk_some answer).symm.trans reached
        cases rest with
        | nil =>
            cases walked
            refine ⟨list.item, .inl rfl, fun index isIndex => ?_⟩
            exact (run_thenWalk_some answer).trans (StopsAtElement.here holds isIndex).run_walk
        | cons second others =>
            by_cases stops : ∃ outer outerList before,
                StopsAtElement outer outerList before after field (second :: others)
            · rcases stops with ⟨outer, outerList, before, stops⟩
              cases stops.run_walk.symm.trans walked
              refine ⟨outerList.item, .inr rfl, fun index isIndex => ?_⟩
              exact (run_thenWalk_some answer).trans (stops.run_walk_append.trans
                (StopsAtElement.here stops.holds isIndex).run_walk)
            · refine ⟨list.item, .inl rfl, fun index isIndex => ?_⟩
              have parts : (walk field (second :: others ++ [index])).run after =
                  (walkParts field (second :: others) [index]).run after :=
                run_walk_append nofun fun outer outerList before ends =>
                  stops ⟨outer, outerList, before, ends⟩
              exact (run_thenWalk_some answer).trans (parts.trans ((run_thenWalk_some walked).trans
                (StopsAtElement.here holds isIndex).run_walk))

/-- What takes the place of a name and its index is itself read as an index just if it is the
asterisk or a number of ASCII digits below two to the power of 63. If it is, an indexed name behind
a path to a list leads to the same field as with the asterisk. -/
theorem canonical_index_read (named : name ≠ "")
    (plain : ∀ character ∈ name.toList, Path.isDelimiter character = false)
    (becomes : Path.canonical (name ++ "[" ++ index ++ "]") = index) :
    (Path.isListIndex index = true ↔
      index = Path.wildcard ∨ (∀ character ∈ index.toList, character.isDigit = true) ∧
        Nat.ofDigitChars 10 index.toList 0 < Nat.pow 2 63) ∧
    (Path.isListIndex index = true → ∀ store id path holder middle list, path ≠ "" →
      (fieldAt id path).run store = (some holder, middle) → middle.listOf? holder = some list →
        ∃ item, (item = list.item ∨ item = holder) ∧
          (fieldAt id (path ++ "/" ++ (name ++ "[" ++ index ++ "]"))).run store =
            (some item, middle) ∧
          (fieldAt id (path ++ "/" ++ (name ++ "[" ++ Path.wildcard ++ "]"))).run store =
            (some item, middle)) := by
  have replaced : Path.replaced (name ++ "[" ++ index ++ "]") = index := by
    rwa [String.append_assoc, String.append_assoc, Path.canonical_of_named named plain,
      ← String.append_assoc, ← String.append_assoc] at becomes
  have isIndex (absent : ∀ character ∈ index.toList, Path.isDelimiter character = false) :
      Path.IsIndex index.toList :=
    Path.isIndex_of_replaced plain (fun member => absurd (absent '[' member) (by decide))
      (fun member => absurd (absent ']' member) (by decide)) replaced
  refine ⟨⟨fun read => ?_, fun regular => ?_⟩, ?_⟩
  · exact (isIndex fun _ => Path.isDelimiter_of_isListIndex read).isListIndex_iff.mp read
  · refine (isIndex fun character member => ?_).isListIndex_iff.mpr regular
    rcases regular with rfl | ⟨digits, -⟩
    · cases List.mem_singleton.mp member
      rfl
    · exact Path.isDelimiter_of_isDigit (digits character member)
  · intro read store id path holder middle list given reached holds
    have behind {inner : String} (isListIndex : Path.isListIndex inner = true)
        (becomes : Path.replaced (name ++ "[" ++ inner ++ "]") = inner) :
        Path.segments (Path.canonical (path ++ "/" ++ (name ++ "[" ++ inner ++ "]"))) =
          Path.segments (Path.canonical path) ++ [inner] := by
      have unseparated : '/' ∉ (name ++ "[" ++ inner ++ "]").toList := by
        have inName : '/' ∉ name.toList := fun member => absurd (plain '/' member) (by decide)
        have inIndex : '/' ∉ inner.toList := fun member =>
          absurd (Path.isDelimiter_of_isListIndex isListIndex member) (by decide)
        simp [inName, inIndex]
      rw [Path.segments_canonical_append given unseparated, becomes]
    have every : Path.replaced (name ++ "[" ++ Path.wildcard ++ "]") = Path.wildcard :=
      Path.replaced_of_indexed named plain .every
    rw [fieldAt_eq] at reached
    rcases run_along_index reached holds with ⟨item, possible, resolves⟩
    refine ⟨item, possible, ?_, ?_⟩
    · rw [fieldAt_eq, behind read replaced, resolves index read]
    · rw [fieldAt_eq, behind (by decide) every, resolves Path.wildcard (by decide)]

/-- The tags of an album: the twelfth of them has the same field as all of them. -/
theorem canonical_index_read_of_tags :
    let text : TypeRef := .named Store.initial.registryId ⟨"system", "string"⟩
    let store := Store.following [
      .build ⟨⟨"s", "tags"⟩, .null, 0, .list text (some "tag") none 0 (-1)⟩,
      .build ⟨⟨"s", "album"⟩, .null, 0,
        .complex .none none [⟨"tags", .direct ⟨8⟩ ⟨"s", "tags"⟩, none, 0, 1, 1⟩]⟩]
    let tag (index : String) : String := "tag" ++ "[" ++ index ++ "]"
    let resolved (index : String) : Option Field × Store :=
      (fieldAt ⟨9⟩ ("tags" ++ "/" ++ tag index)).run store
    Path.canonical (tag "12") = "12" ∧ Path.isListIndex "12" = true ∧
    resolved "12" = resolved Path.wildcard ∧
    (resolved "12").1.map Field.localName = some "tag" := by
  intro text store tag resolved
  have plain : ∀ character ∈ "tag".toList, Path.isDelimiter character = false := by
    simp [Path.isDelimiter]
  have becomes : Path.canonical (tag "12") = "12" := by decide +kernel
  have holdsTags : ∃ holder ∈ ((fieldAt ⟨9⟩ "tags").run store).1,
      (((fieldAt ⟨9⟩ "tags").run store).2.listOf? holder).isSome = true := by decide +kernel
  generalize answer : (fieldAt ⟨9⟩ "tags").run store = outcome at holdsTags
  rcases outcome with ⟨reached, middle⟩
  rcases holdsTags with ⟨holder, rfl, isList⟩
  rcases Option.isSome_iff_exists.mp isList with ⟨list, holds⟩
  rcases canonical_index_read (by decide) plain becomes with ⟨exactly, same⟩
  have read : Path.isListIndex "12" = true :=
    exactly.mpr (.inr ⟨List.all_eq_true.mp (by decide), by decide +kernel⟩)
  rcases same read store ⟨9⟩ "tags" holder middle list (by decide) answer holds with
    ⟨item, -, indexed, every⟩
  exact ⟨becomes, read, indexed.trans every.symm, by decide +kernel⟩

/-- A number that is too great, and a digit that is not ASCII, take the place of a name without
being read as indexes: they lead nowhere, where the asterisk leads to the tags. -/
theorem canonical_index_unread :
    let text : TypeRef := .named Store.initial.registryId ⟨"system", "string"⟩
    let store := Store.following [
      .build ⟨⟨"s", "tags"⟩, .null, 0, .list text (some "tag") none 0 (-1)⟩,
      .build ⟨⟨"s", "album"⟩, .null, 0,
        .complex .none none [⟨"tags", .direct ⟨8⟩ ⟨"s", "tags"⟩, none, 0, 1, 1⟩]⟩]
    let resolved (path : String) : Option String :=
      ((fieldAt ⟨9⟩ path).run store).1.map Field.localName
    (Path.canonical "tag[9223372036854775808]" = "9223372036854775808" ∧
      Path.isListIndex "9223372036854775808" = false) ∧
    (Path.canonical "tag[٣]" = "٣" ∧ Path.isListIndex "٣" = false) ∧
    resolved "tags/tag[9223372036854775808]" = none ∧ resolved "tags/tag[٣]" = none ∧
    resolved "tags/tag[*]" = some "tag" := by
  decide +kernel

end Action
end DocumentTypes
