import DocumentTypes.Proofs.Merge
import DocumentTypes.Proofs.PathSegments
import Mathlib.Data.List.Nodup

/-! # Names of fields

A complex type finds the field with a qualified name, and under a bare name one that has it
as local name: its own, or else the first. A composite shows under a name the last field that
goes by it. -/

namespace DocumentTypes

namespace QualifiedName

theorem parse_text {name : QualifiedName} (present : name.qualifier ≠ "")
    (plain : ':' ∉ name.qualifier.toList) (default : String) : parse name.text default = name := by
  rw [text, if_neg present, parse_append plain]

theorem mem_text {name : QualifiedName} (present : name.qualifier ≠ "") :
    ':' ∈ name.text.toList := by
  rw [text, if_neg present]
  simp [String.toList_append]

end QualifiedName

namespace Field

variable {field : Field} {name qualifier localName : String}

theorem isShownAs_of_bare (bare : ':' ∉ name.toList) :
    field.isShownAs name = (field.localName == name) := by
  rw [isShownAs, Bool.or_eq_left_iff_imp, beq_iff_eq, beq_iff_eq]
  intro written
  by_cases present : field.name.qualifier = ""
  · rw [QualifiedName.text, if_pos present] at written
    exact written
  · exact absurd (written ▸ QualifiedName.mem_text present) bare

theorem isShownAs_append (present : qualifier ≠ "") (plain : ':' ∉ qualifier.toList)
    (fieldPlain : ':' ∉ field.name.qualifier.toList)
    (apart : field.localName ≠ qualifier ++ ":" ++ localName) :
    field.isShownAs (qualifier ++ ":" ++ localName) = (field.name == ⟨qualifier, localName⟩) := by
  have written : (⟨qualifier, localName⟩ : QualifiedName).text = qualifier ++ ":" ++ localName := by
    rw [QualifiedName.text, if_neg present]
  rw [isShownAs, beq_eq_false_iff_ne.mpr apart, Bool.false_or, Bool.eq_iff_iff, beq_iff_eq,
    beq_iff_eq]
  constructor
  · intro same
    by_cases unqualified : field.name.qualifier = ""
    · rw [QualifiedName.text, if_pos unqualified] at same
      exact absurd same apart
    · rw [← QualifiedName.parse_text unqualified fieldPlain "", same,
        QualifiedName.parse_append plain]
  · intro same
    rw [same, written]

theorem find?_name_iff {fields : List Field} {key : QualifiedName}
    (nodup : (fields.map Field.name).Nodup) :
    (fields.find? fun field => field.name == key) = some field ↔
      field ∈ fields ∧ field.name = key := by
  constructor
  · exact fun found =>
      ⟨List.mem_of_find?_eq_some found, by simpa using List.find?_some found⟩
  · rintro ⟨member, rfl⟩
    cases found : fields.find? fun other => other.name == field.name with
    | none => exact absurd (List.find?_eq_none.mp found field member) (by simp)
    | some other =>
        have same : other.name = field.name := by simpa using List.find?_some found
        rw [List.inj_on_of_nodup_map nodup (List.mem_of_find?_eq_some found) member same]

end Field

namespace ComplexType

variable {complex : ComplexType} {name qualifier localName : String} {key : QualifiedName}
  {field : Field}

def Keyed (complex : ComplexType) : Prop :=
  ∀ key field, complex.fields.get? key = some field → field.name = key

/-- The fields of a local name, whatever their qualifiers. -/
def namesakes (complex : ComplexType) (name : String) : List Field :=
  complex.fields.values.filter fun field => field.localName == name

namespace Keyed

theorem names_eq (keyed : complex.Keyed) :
    complex.fields.values.map Field.name = complex.fields.keys := by
  rw [Table.values, Table.keys, List.map_map]
  refine List.map_congr_left fun entry member => ?_
  exact keyed entry.1 entry.2 (Table.mem_entries_iff.mp member)

theorem nodup (keyed : complex.Keyed) : (complex.fields.values.map Field.name).Nodup :=
  keyed.names_eq ▸ complex.fields.nodup

theorem get?_iff (keyed : complex.Keyed) :
    complex.fields.get? key = some field ↔ field ∈ complex.fields.values ∧ field.name = key := by
  constructor
  · exact fun found => ⟨Table.mem_values_iff.mpr ⟨key, found⟩, keyed key field found⟩
  · rintro ⟨member, rfl⟩
    rcases Table.mem_values_iff.mp member with ⟨other, found⟩
    rwa [← keyed other field found] at found

theorem get?_eq (keyed : complex.Keyed) (key : QualifiedName) :
    complex.fields.get? key = complex.fields.values.find? fun field => field.name == key :=
  Option.ext fun _ => keyed.get?_iff.trans (Field.find?_name_iff keyed.nodup).symm

theorem find?_reverse (keyed : complex.Keyed) (key : QualifiedName) :
    (complex.fields.values.reverse.find? fun field => field.name == key) =
      complex.fields.get? key := by
  have nodup : (complex.fields.values.reverse.map Field.name).Nodup := by
    rw [List.map_reverse, List.nodup_reverse]
    exact keyed.nodup
  refine Option.ext fun field => ?_
  rw [Field.find?_name_iff nodup, keyed.get?_iff, List.mem_reverse]

/-! ## Bare names -/

theorem find?_of_bare (keyed : complex.Keyed) (bare : ':' ∉ name.toList) :
    complex.find? name = ((complex.namesakes name).find? fun field =>
      field.name.qualifier == complex.space.qualifier).or (complex.namesakes name).head? := by
  have own : ((complex.namesakes name).find? fun field =>
      field.name.qualifier == complex.space.qualifier) =
        complex.fields.get? ⟨complex.space.qualifier, name⟩ := by
    rw [keyed.get?_eq, namesakes, List.find?_filter]
    refine congrArg (List.find? · _) (funext fun field => ?_)
    rcases field with ⟨_, _, _, ⟨fieldQualifier, fieldLocal⟩, _⟩
    rw [Bool.eq_iff_iff]
    simp [Field.localName, and_comm]
  rw [own, namesakes, List.head?_filter, find?, QualifiedName.parse_of_bare bare,
    String.contains_char_eq, decide_eq_false bare]
  cases complex.fields.get? ⟨complex.space.qualifier, name⟩ <;> rfl

end Keyed

theorem shown_of_bare (complex : ComplexType) (bare : ':' ∉ name.toList) :
    complex.fields.values.reverse.find? (·.isShownAs name) =
      (complex.namesakes name).getLast? := by
  rw [namesakes, List.getLast?_filter]
  exact congrArg (List.find? · _) (funext fun field => Field.isShownAs_of_bare bare)

namespace Keyed

theorem isSome_find?_of_bare (keyed : complex.Keyed) (bare : ':' ∉ name.toList) :
    (complex.find? name).isSome =
      (complex.fields.values.reverse.find? (·.isShownAs name)).isSome := by
  rw [keyed.find?_of_bare bare, complex.shown_of_bare bare, Option.isSome_or]
  cases complex.namesakes name with
  | nil => rfl
  | cons first rest => simp

/-- What is found under a bare name is what is shown, just if there is only one field of this
local name or the last one of them is the type's own. -/
theorem find?_eq_shown_iff (keyed : complex.Keyed) (bare : ':' ∉ name.toList) :
    complex.find? name = complex.fields.values.reverse.find? (·.isShownAs name) ↔
      (complex.namesakes name).length ≤ 1 ∨
        ∃ last ∈ (complex.namesakes name).getLast?,
          last.name.qualifier = complex.space.qualifier := by
  rw [keyed.find?_of_bare bare, complex.shown_of_bare bare]
  have members : ∀ field ∈ complex.namesakes name,
      field ∈ complex.fields.values ∧ field.localName = name := fun field member => by
    simpa [namesakes] using member
  have nodup : (complex.namesakes name).Nodup := (List.Nodup.of_map _ keyed.nodup).filter _
  generalize complex.namesakes name = namesakes at members nodup
  constructor
  · intro same
    cases own : namesakes.find? fun field =>
        field.name.qualifier == complex.space.qualifier with
    | some field =>
        rw [own, Option.some_or] at same
        exact .inr ⟨field, same.symm, by simpa using List.find?_some own⟩
    | none =>
        rw [own, Option.none_or] at same
        match namesakes with
        | [] => exact .inl (Nat.zero_le 1)
        | [field] => exact .inl (Nat.le_refl 1)
        | first :: second :: rest =>
            rw [List.head?_cons, List.getLast?_cons_cons] at same
            exact absurd (List.mem_of_getLast? same.symm) (List.nodup_cons.mp nodup).1
  · rintro (few | ⟨last, isLast, own⟩)
    · match namesakes with
      | [] => rfl
      | [field] =>
          rw [List.head?_cons, List.getLast?_singleton, List.find?_singleton]
          split <;> rfl
      | first :: second :: rest => simp at few
    · have lastMember := List.mem_of_getLast? isLast
      cases found : namesakes.find? fun field =>
          field.name.qualifier == complex.space.qualifier with
      | none =>
          exact absurd own (by simpa using List.find?_eq_none.mp found last lastMember)
      | some field =>
          have fieldMember := List.mem_of_find?_eq_some found
          have fieldOwn : field.name.qualifier = complex.space.qualifier := by
            simpa using List.find?_some found
          have same : field.name = last.name := by
            rcases members field fieldMember with ⟨-, fieldLocal⟩
            rcases members last lastMember with ⟨-, lastLocal⟩
            have qualifiers := fieldOwn.trans own.symm
            have localNames := fieldLocal.trans lastLocal.symm
            rcases field with ⟨_, _, _, ⟨_, _⟩, _⟩
            rcases last with ⟨_, _, _, ⟨_, _⟩, _⟩
            cases qualifiers
            cases localNames
            rfl
          rw [Option.some_or, isLast, List.inj_on_of_nodup_map keyed.nodup
            (members field fieldMember).1 (members last lastMember).1 same]

/-! ## Qualified names -/

theorem find?_append (plain : ':' ∉ qualifier.toList) :
    complex.find? (qualifier ++ ":" ++ localName) =
      complex.fields.get? ⟨qualifier, localName⟩ := by
  have separated : ':' ∈ (qualifier ++ ":" ++ localName).toList := by
    simp [String.toList_append]
  rw [find?, QualifiedName.parse_append plain, String.contains_char_eq, decide_eq_true separated]
  cases complex.fields.get? ⟨qualifier, localName⟩ <;> rfl

/-- What is found under a qualified name is what is shown, unless a field looks as if it were
named so without being it. -/
theorem find?_append_eq_shown (keyed : complex.Keyed) (present : qualifier ≠ "")
    (plain : ':' ∉ qualifier.toList)
    (apart : ∀ field ∈ complex.fields.values, ':' ∉ field.name.qualifier.toList ∧
      field.localName ≠ qualifier ++ ":" ++ localName) :
    complex.find? (qualifier ++ ":" ++ localName) =
      complex.fields.values.reverse.find? (·.isShownAs (qualifier ++ ":" ++ localName)) := by
  rw [find?_append plain, ← keyed.find?_reverse, ← List.head?_filter, ← List.head?_filter]
  refine congrArg List.head? (List.filter_congr fun field member => ?_)
  rcases apart field (List.mem_reverse.mp member) with ⟨fieldPlain, different⟩
  rw [Field.isShownAs_append present plain fieldPlain different]

end Keyed

end ComplexType
end DocumentTypes
