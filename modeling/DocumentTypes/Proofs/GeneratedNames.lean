import DocumentTypes.Path
import DocumentTypes.Proofs.DocumentNames
import DocumentTypes.Proofs.LoadOutcome

/-! # Names of generated types

Types that are generated for fields are named by the paths of these. As long as no field
name holds a separator or the mark, different paths give different names, and none of them
is taken by anything else that is registered. -/

namespace DocumentTypes

/-- A name that stands for itself in a path. -/
structure PlainName (name : String) : Prop where
  unseparated : '/' ∉ name.toList
  unqualified : ':' ∉ name.toList
  unindexed : '[' ∉ name.toList
  unmarked : Failure.anonymousMark ∉ name.toList
  noIndex : Path.isListIndex name = false

instance (name : String) : Decidable (PlainName name) :=
  decidable_of_iff ('/' ∉ name.toList ∧ ':' ∉ name.toList ∧ '[' ∉ name.toList ∧
      Failure.anonymousMark ∉ name.toList ∧ Path.isListIndex name = false)
    ⟨fun ⟨unseparated, unqualified, unindexed, unmarked, noIndex⟩ =>
      ⟨unseparated, unqualified, unindexed, unmarked, noIndex⟩,
    fun plain => ⟨plain.unseparated, plain.unqualified, plain.unindexed, plain.unmarked,
      plain.noIndex⟩⟩

/-- What may stand behind a name inside the name of a generated type. -/
def EndsName (tail : List Char) : Prop :=
  tail.head?.all fun character => character == '/' || character == Failure.anonymousMark

/-- Names that are followed by what ends a name are told apart with that. The induction goes
through both names at once. -/
theorem PlainName.eq_of_append {first second : String} (firstPlain : PlainName first)
    (secondPlain : PlainName second) {firstTail secondTail : List Char}
    (firstEnds : EndsName firstTail) (secondEnds : EndsName secondTail)
    (same : first.toList ++ firstTail = second.toList ++ secondTail) : first = second := by
  let Plain (characters : List Char) : Prop :=
    '/' ∉ characters ∧ Failure.anonymousMark ∉ characters
  have noEnd : ∀ {character : Char} {rest tail : List Char}, Plain (character :: rest) →
      ¬EndsName (character :: tail) := by
    rintro character rest tail ⟨unseparated, unmarked⟩ ends
    rcases (by simpa [EndsName] using ends :
      character = '/' ∨ character = Failure.anonymousMark) with rfl | rfl
    · exact unseparated List.mem_cons_self
    · exact unmarked List.mem_cons_self
  have split : ∀ {left right : List Char}, Plain left → Plain right →
      left ++ firstTail = right ++ secondTail → left = right := by
    intro left
    induction left with
    | nil =>
        intro right _ plain equal
        cases right with
        | nil => rfl
        | cons character rest =>
            rw [List.nil_append] at equal
            exact absurd (equal ▸ firstEnds) (noEnd plain)
    | cons character rest induction =>
        intro right plain otherPlain equal
        cases right with
        | nil =>
            rw [List.nil_append] at equal
            exact absurd (equal.symm ▸ secondEnds) (noEnd plain)
        | cons other others =>
            rcases List.cons.inj equal with ⟨rfl, later⟩
            have rests := induction (plain.imp List.not_mem_of_not_mem_cons
              List.not_mem_of_not_mem_cons) (otherPlain.imp List.not_mem_of_not_mem_cons
              List.not_mem_of_not_mem_cons) later
            rw [rests]
  exact String.toList_inj.mp (split ⟨firstPlain.unseparated, firstPlain.unmarked⟩
    ⟨secondPlain.unseparated, secondPlain.unmarked⟩ same)

namespace Drafting

/-- A name behind the mark and some leading text, with something that ends it. -/
def NamedBehind (leading name : String) (typeName : String) : Prop :=
  ∃ tail, EndsName tail ∧
    typeName.toList = (nestedTypeName leading).toList ++ (name.toList ++ tail)

theorem namedBehind_nested (leading name : String) :
    NamedBehind leading name (nestedTypeName (leading ++ name)) :=
  ⟨[], rfl, by simp [nestedTypeName]⟩

theorem namedBehind_list (leading name : String) :
    NamedBehind leading name (listTypeName (leading ++ name)) :=
  ⟨Failure.anonymousMark :: "list".toList, by simp [EndsName],
    by simp [listTypeName, nestedTypeName]⟩

theorem NamedBehind.outer {leading name inner typeName : String}
    (named : NamedBehind (leading ++ name ++ "/") inner typeName) :
    NamedBehind leading name typeName := by
  rcases named with ⟨tail, -, same⟩
  exact ⟨'/' :: (inner.toList ++ tail), by simp [EndsName], by simp [same, nestedTypeName]⟩

theorem NamedBehind.eq {leading first second typeName : String}
    (one : NamedBehind leading first typeName) (other : NamedBehind leading second typeName)
    (firstPlain : PlainName first) (secondPlain : PlainName second) : first = second := by
  rcases one with ⟨firstTail, firstEnds, same⟩
  rcases other with ⟨secondTail, secondEnds, also⟩
  have tails := List.append_cancel_left (same.symm.trans also)
  exact firstPlain.eq_of_append secondPlain firstEnds secondEnds tails

theorem listTypes_named {scope : Scope} {path : String} {field : FieldDefinition}
    {item : TypeRef} {typeName : TypeName}
    (member : typeName ∈ (listTypes scope path field item).map Blueprint.name) :
    typeName = ⟨scope.schema, listTypeName path⟩ := by
  unfold listTypes at member
  split at member
  · exact List.mem_singleton.mp member
  · cases member

namespace FieldsDrafted

variable {scope : Scope} {space : Namespace} {leading : String}
  {fields : List (String × FieldDefinition)} {declared : List FieldDeclaration} {draft : Draft}

theorem namedBehind (drafted : FieldsDrafted scope space leading fields declared draft) :
    ∀ typeName ∈ draft.types.map Blueprint.name,
      ∃ entry ∈ fields, NamedBehind leading entry.1 typeName.name := by
  induction drafted with
  | nil => exact fun _ member => by cases member
  | named _ _ _ _ induction =>
      intro typeName member
      rw [Draft.types_append, List.map_append, List.mem_append] at member
      rcases member with list | later
      · rw [listTypes_named list]
        exact ⟨_, List.mem_cons_self, namedBehind_list _ _⟩
      · rcases induction typeName later with ⟨entry, present, named⟩
        exact ⟨entry, List.mem_cons_of_mem _ present, named⟩
  | nested _ _ _ inside induction =>
      intro typeName member
      simp only [Draft.types_append, List.map_append, List.map_cons, List.mem_append,
        List.mem_cons] at member
      rcases member with (inner | rfl | list) | later
      · rcases inside typeName inner with ⟨entry, -, named⟩
        exact ⟨_, List.mem_cons_self, named.outer⟩
      · exact ⟨_, List.mem_cons_self, namedBehind_nested _ _⟩
      · rw [listTypes_named list]
        exact ⟨_, List.mem_cons_self, namedBehind_list _ _⟩
      · rcases induction typeName later with ⟨entry, present, named⟩
        exact ⟨entry, List.mem_cons_of_mem _ present, named⟩

theorem apart {name : String} {rest : List (String × FieldDefinition)}
    {later : List FieldDeclaration} {others : Draft}
    (drafted : FieldsDrafted scope space leading rest later others) (plain : PlainName name)
    (once : name ∉ rest.map Prod.fst) (names : FieldNames PlainName rest) {typeName : TypeName}
    (named : NamedBehind leading name typeName.name) :
    typeName ∉ others.types.map Blueprint.name := by
  intro member
  rcases drafted.namedBehind typeName member with ⟨entry, present, other⟩
  have same := named.eq other plain (names.of_mem present).1
  exact once (same ▸ List.mem_map_of_mem present)

end FieldsDrafted
end Drafting
end DocumentTypes
