import DocumentTypes.Name
import DocumentTypes.Path

/-! # Segments of plain paths

A path of names without brackets is its own canonical form, and its segments are the names
that it was put together from. -/

namespace DocumentTypes

namespace Path

variable {characters name : List Char}

theorem replaceIndexed_of_plain (plain : '[' ∉ characters) :
    replaceIndexed 0 name characters = name.reverse ++ characters := by
  induction characters generalizing name with
  | nil => exact (List.append_nil _).symm
  | cons character rest induction =>
      have different := List.ne_of_not_mem_cons plain
      have later := List.not_mem_of_not_mem_cons plain
      by_cases delimits : isDelimiter character = true
      · rw [replaceIndexed, delimits]
        simp [Ne.symm different, induction later]
      · rw [replaceIndexed]
        simp [delimits, induction later]

theorem canonical_of_plain {path : String} (plain : '[' ∉ path.toList)
    (relative : path.toList.head? ≠ some '/') : canonical path = path := by
  unfold canonical
  dsimp only
  split
  next starts => exact absurd (congrArg List.head? starts) relative
  next =>
    rw [replaceIndexed_of_plain plain, List.reverse_nil, List.nil_append, String.ofList_toList]

variable {separator : Char}

theorem splitChars_of_notMem (plain : separator ∉ characters) :
    splitChars separator characters = [characters] := by
  induction characters with
  | nil => rfl
  | cons character rest induction =>
      have different := List.ne_of_not_mem_cons plain
      have later := List.not_mem_of_not_mem_cons plain
      rw [splitChars, if_neg (Ne.symm different), induction later]

theorem splitChars_append (plain : separator ∉ name) (rest : List Char) :
    splitChars separator (name ++ separator :: rest) = name :: splitChars separator rest := by
  induction name with
  | nil => rw [List.nil_append, splitChars, if_pos rfl]
  | cons character others induction =>
      have different := List.ne_of_not_mem_cons plain
      have later := List.not_mem_of_not_mem_cons plain
      rw [List.cons_append, splitChars, if_neg (Ne.symm different), induction later]

theorem splitOn_of_notMem {text : String} (plain : separator ∉ text.toList) :
    splitOn separator text = [text] := by
  rw [splitOn, splitChars_of_notMem plain, List.map_singleton, String.ofList_toList]

theorem splitOn_intercalate {first : String} {rest : List String}
    (plain : ∀ name ∈ first :: rest, separator ∉ name.toList) :
    splitOn separator ((String.singleton separator).intercalate (first :: rest)) =
      first :: rest := by
  induction rest generalizing first with
  | nil =>
      rw [String.intercalate_singleton]
      exact splitOn_of_notMem (plain first List.mem_cons_self)
  | cons second others induction =>
      have later := induction fun name member => plain name (List.mem_cons_of_mem _ member)
      rw [splitOn] at later ⊢
      rw [String.intercalate_cons_cons, String.append_assoc, String.toList_append,
        String.toList_append, String.toList_singleton, List.singleton_append,
        splitChars_append (plain first List.mem_cons_self), List.map_cons, String.ofList_toList,
        later]

theorem notMem_intercalate {character : Char} (different : character ≠ separator)
    {names : List String} (plain : ∀ name ∈ names, character ∉ name.toList) :
    character ∉ ((String.singleton separator).intercalate names).toList := by
  induction names with
  | nil => simp
  | cons first rest induction =>
      have later := induction fun name member => plain name (List.mem_cons_of_mem _ member)
      have here := plain first List.mem_cons_self
      cases rest with
      | nil => rwa [String.intercalate_singleton]
      | cons second others =>
          rw [String.intercalate_cons_cons]
          simp only [String.toList_append, String.toList_singleton, List.mem_append,
            List.mem_singleton, not_or]
          exact ⟨⟨here, different⟩, later⟩

end Path

/-! ## Qualified names -/

theorem splitAtFirst?_eq_none_iff {separator : Char} {characters : List Char} :
    splitAtFirst? separator characters = none ↔ separator ∉ characters := by
  induction characters with
  | nil => simp [splitAtFirst?]
  | cons character rest induction =>
      rw [splitAtFirst?, List.mem_cons, not_or]
      by_cases same : character = separator
      · simp [same]
      · rw [if_neg same, Option.map_eq_none_iff, induction]
        exact ⟨fun absent => ⟨Ne.symm same, absent⟩, And.right⟩

theorem splitOnce?_eq_none_iff {separator : Char} {text : String} :
    splitOnce? separator text = none ↔ separator ∉ text.toList := by
  rw [splitOnce?, Option.map_eq_none_iff, splitAtFirst?_eq_none_iff]

theorem splitOnce?_append {separator : Char} {front : String} (plain : separator ∉ front.toList)
    (back : String) :
    splitOnce? separator (front ++ String.singleton separator ++ back) = some (front, back) := by
  have found : ∀ characters : List Char, separator ∉ characters →
      splitAtFirst? separator (characters ++ separator :: back.toList) =
        some (characters, back.toList) := by
    intro characters absent
    induction characters with
    | nil => rw [List.nil_append, splitAtFirst?, if_pos rfl]
    | cons character rest induction =>
        have different := List.ne_of_not_mem_cons absent
        have later := List.not_mem_of_not_mem_cons absent
        rw [List.cons_append, splitAtFirst?, if_neg (Ne.symm different), induction later]
        rfl
  rw [splitOnce?, String.toList_append, String.toList_append, String.toList_singleton,
    List.append_assoc, List.singleton_append, found front.toList plain]
  simp

namespace QualifiedName

theorem parse_of_bare {text : String} (bare : ':' ∉ text.toList) (qualifier : String) :
    parse text qualifier = ⟨qualifier, text⟩ := by
  rw [parse, splitOnce?_eq_none_iff.mpr bare]

theorem parse_append {qualifier : String} (plain : ':' ∉ qualifier.toList)
    (localName default : String) :
    parse (qualifier ++ ":" ++ localName) default = ⟨qualifier, localName⟩ := by
  rw [parse, show ":" = String.singleton ':' from rfl, splitOnce?_append plain]

end QualifiedName
end DocumentTypes
