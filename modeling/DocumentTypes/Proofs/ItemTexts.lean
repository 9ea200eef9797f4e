import DocumentTypes.Proofs.PathSegments
import DocumentTypes.Proofs.Scalars
import DocumentTypes.Store.Text
import Mathlib.Data.List.Forall2
import Mathlib.Data.List.TakeWhile

/-! # Texts of items

A text is split at every blank, so joining the parts gives the text again. Joined items are
told apart just if none of them holds a blank and there is at least one. Whole numbers and
truth values are written without blanks, and what is written is read back. -/

namespace DocumentTypes

namespace Path

variable {separator : Char}

theorem splitChars_eq_splitOn (separator : Char) (characters : List Char) :
    splitChars separator characters = characters.splitOn separator := by
  induction characters with
  | nil => rw [splitChars, List.splitOn_nil]
  | cons character rest induction =>
      rw [splitChars, List.splitOn_eq_splitOnP, List.splitOnP_cons_eq_if_modifyHead,
        ← List.splitOn_eq_splitOnP, ← induction]
      by_cases same : character = separator
      · simp [same]
      · simp only [same, if_false, beq_iff_eq]
        -- There is always a first part, which takes the character.
        cases parts : splitChars separator rest with
        | nil => simp [parts] at induction
        | cons first others => rfl

theorem intercalate_splitOn (separator : Char) (text : String) :
    (String.singleton separator).intercalate (splitOn separator text) = text := by
  have parts : (splitOn separator text).map String.toList = text.toList.splitOn separator := by
    rw [splitOn, splitChars_eq_splitOn, List.map_map]
    simp [Function.comp_def]
  rw [← String.toList_inj, String.toList_intercalate, parts, String.toList_singleton,
    List.intercalate_splitOn]

theorem length_splitOn (separator : Char) (text : String) :
    (splitOn separator text).length = text.toList.count separator + 1 := by
  rw [splitOn, List.length_map]
  generalize text.toList = characters
  induction characters with
  | nil => rfl
  | cons character rest induction =>
      rw [splitChars]
      by_cases same : character = separator
      · rw [if_pos same, List.length_cons, induction, same, List.count_cons_self]
      · rw [if_neg same, List.count_cons_of_ne same, ← induction]
        cases parts : splitChars separator rest with
        | nil => simp [parts] at induction
        | cons first others => rfl

theorem count_intercalate (separator : Char) (first : String) (rest : List String) :
    ((String.singleton separator).intercalate (first :: rest)).toList.count separator =
      ((first :: rest).flatMap String.toList).count separator + rest.length := by
  induction rest generalizing first with
  | nil => simp
  | cons second others induction =>
      rw [String.intercalate_cons_cons]
      simp only [String.toList_append, String.toList_singleton, List.count_append, induction,
        List.count_singleton_self, List.flatMap_cons, List.length_cons]
      omega

end Path

/-! ## Items -/

variable {items : List String}

theorem joinItems_splitItems (text : String) : joinItems (splitItems text) = text :=
  Path.intercalate_splitOn itemSeparator text

theorem splitItems_ne_nil (text : String) : splitItems text ≠ [] := by
  intro none
  have length := Path.length_splitOn itemSeparator text
  rw [← splitItems, none] at length
  cases length

theorem length_splitItems_joinItems (given : items ≠ []) :
    (splitItems (joinItems items)).length = items.length ↔
      ∀ item ∈ items, itemSeparator ∉ item.toList := by
  rcases List.exists_cons_of_ne_nil given with ⟨first, rest, rfl⟩
  rw [splitItems, Path.length_splitOn, joinItems, Path.count_intercalate, List.length_cons]
  have none : ((first :: rest).flatMap String.toList).count itemSeparator = 0 ↔
      ∀ item ∈ first :: rest, itemSeparator ∉ item.toList := by
    rw [List.count_eq_zero, List.mem_flatMap]
    exact ⟨fun absent item member blank => absent ⟨item, member, blank⟩,
      fun absent ⟨item, member, blank⟩ => absent item member blank⟩
  rw [← none]
  omega

theorem splitItems_joinItems (given : items ≠ [])
    (plain : ∀ item ∈ items, itemSeparator ∉ item.toList) :
    splitItems (joinItems items) = items := by
  rcases List.exists_cons_of_ne_nil given with ⟨first, rest, rfl⟩
  exact Path.splitOn_intercalate plain

/-- Something that holds of items one by one holds of the parts of their joined text just if
these are the items. -/
theorem forall₂_splitItems_iff {α : Type} {related : String → α → Prop} {values : List α}
    (each : List.Forall₂ related items values) :
    List.Forall₂ related (splitItems (joinItems items)) values ↔
      items ≠ [] ∧ ∀ item ∈ items, itemSeparator ∉ item.toList := by
  constructor
  · intro parts
    have given : items ≠ [] := by
      rintro rfl
      cases each
      exact splitItems_ne_nil _ (List.forall₂_nil_right_iff.mp parts)
    have lengths := parts.length_eq.trans each.length_eq.symm
    exact ⟨given, (length_splitItems_joinItems given).mp lengths⟩
  · rintro ⟨given, plain⟩
    rwa [splitItems_joinItems given plain]

/-! ## Whole numbers -/

namespace Decimal

variable {text : String}

theorem readDigits?_of_digits {digits : List Char} (given : digits ≠ [])
    (all : ∀ character ∈ digits, character.isDigit = true) :
    readDigits? digits = some (Nat.ofDigitChars 10 digits 0) := by
  have nonempty : digits.isEmpty = false := List.isEmpty_eq_false_iff.mpr given
  rw [readDigits?, nonempty, List.all_eq_true.mpr all]
  rfl

theorem digits_of_readDigits? {digits : List Char} {value : Nat}
    (read : readDigits? digits = some value) :
    (∀ character ∈ digits, character.isDigit = true) ∧ value = Nat.ofDigitChars 10 digits 0 := by
  unfold readDigits? at read
  split at read
  next valid =>
    rw [Bool.and_eq_true, List.all_eq_true] at valid
    exact ⟨valid.2, (Option.some.inj read).symm⟩
  next => cases read

theorem readInt?_of_digits (given : text ≠ "")
    (digits : ∀ character ∈ text.toList, character.isDigit = true) :
    readInt? text = some (Nat.ofDigitChars 10 text.toList 0 : Nat) := by
  have read := readDigits?_of_digits (by simpa using given) digits
  unfold readInt?
  split
  next starts => exact absurd (digits '-' (starts ▸ List.mem_cons_self)) (by decide)
  next starts => exact absurd (digits '+' (starts ▸ List.mem_cons_self)) (by decide)
  next => rw [read]; rfl

theorem digits_of_readInt? {value : Int} (read : readInt? text = some value) :
    ∃ digits magnitude, readDigits? digits = some magnitude ∧
      (text.toList = '-' :: digits ∧ value = -(magnitude : Int) ∨ text.toList = '+' :: digits ∨
        text.toList = digits ∧ value = magnitude) := by
  unfold readInt? at read
  split at read
  next digits starts =>
    cases found : readDigits? digits with
    | none => simp [found] at read
    | some magnitude =>
        rw [found] at read
        exact ⟨digits, magnitude, found, .inl ⟨starts, (Option.some.inj read).symm⟩⟩
  next digits starts =>
    rcases Option.map_eq_some_iff.mp read with ⟨magnitude, found, rfl⟩
    exact ⟨digits, magnitude, found, .inr (.inl starts)⟩
  next =>
    rcases Option.map_eq_some_iff.mp read with ⟨magnitude, found, rfl⟩
    exact ⟨_, magnitude, found, .inr (.inr ⟨rfl, rfl⟩)⟩

theorem readDigits?_toDigits (value : Nat) : readDigits? (Nat.toDigits 10 value) = some value := by
  have digits : (Nat.toDigits 10 value).all Char.isDigit = true :=
    List.all_eq_true.mpr fun _ member => Nat.isDigit_of_mem_toDigits (by decide) (by decide) member
  have given : (Nat.toDigits 10 value).isEmpty = false := by simp
  rw [readDigits?, digits, given, Nat.ofDigitChars_ten_toDigits]
  rfl

theorem readInt?_writeInt (value : Int) : readInt? (writeInt value) = some value := by
  unfold writeInt
  split
  next negative =>
    have text : ("-" ++ writeNat value.natAbs).toList = '-' :: Nat.toDigits 10 value.natAbs := by
      simp [writeNat]
    have magnitude : -(value.natAbs : Int) = value := by omega
    rw [readInt?, text]
    simp only [readDigits?_toDigits]
    exact congrArg some magnitude
  next positive =>
    have text : (writeNat value.natAbs).toList = Nat.toDigits 10 value.natAbs := by simp [writeNat]
    have unsigned : ∀ sign rest, Nat.toDigits 10 value.natAbs = sign :: rest →
        sign.isDigit = true := fun sign rest opening =>
      Nat.isDigit_of_mem_toDigits (by decide) (by decide) (opening ▸ List.mem_cons_self)
    rw [readInt?, text]
    split
    next digits opening => exact absurd (unsigned _ _ opening) (by decide)
    next digits opening => exact absurd (unsigned _ _ opening) (by decide)
    next =>
      rw [readDigits?_toDigits, Option.map_some]
      congr 1
      exact Int.natAbs_of_nonneg (by omega)

theorem isBlank_of_mem_writeInt {value : Int} {character : Char}
    (member : character ∈ (writeInt value).toList) : Text.isBlank character = false := by
  have digit {count : Nat} (member : character ∈ (writeNat count).toList) :
      Text.isBlank character = false := by
    rw [writeNat, String.toList_ofList] at member
    exact Text.isBlank_of_isDigit (Nat.isDigit_of_mem_toDigits (by decide) (by decide) member)
  unfold writeInt at member
  split at member
  next =>
    rw [String.toList_append] at member
    rcases List.mem_append.mp member with sign | rest
    · rw [List.mem_singleton.mp sign]
      rfl
    · exact digit rest
  next => exact digit member

end Decimal

theorem Text.trim_of_visible {text : String}
    (visible : ∀ character ∈ text.toList, isBlank character = false) : trim text = text := by
  have kept : ∀ characters : List Char, (∀ character ∈ characters, isBlank character = false) →
      characters.dropWhile isBlank = characters := by
    intro characters visible
    rw [List.dropWhile_eq_self_iff]
    intro some
    simp [visible _ (List.getElem_mem some)]
  rw [trim, trimChars, kept _ visible, kept, List.reverse_reverse, String.ofList_toList]
  exact fun character member => visible character (List.mem_reverse.mp member)

theorem Decimal.readIntWithin?_writeInt {least greatest value : Int} (low : least ≤ value)
    (high : value ≤ greatest) :
    readIntWithin? least greatest (Text.trim (writeInt value)) = some value := by
  rw [Text.trim_of_visible fun _ => isBlank_of_mem_writeInt, readIntWithin?_eq_some_iff]
  exact ⟨readInt?_writeInt value, low, high⟩

/-! ## Primitives -/

namespace PrimitiveKind

variable {kind : PrimitiveKind} {value : Value}

/-- The primitives that read back whatever they have written. -/
def rereading : List PrimitiveKind := [string, boolean, integer, long]

theorem read?_writeBoolean (value : Bool) :
    PrimitiveKind.boolean.read? (writeBoolean value) = some (.boolean value) := by
  cases value <;> rfl

theorem read?_encode? (rereads : kind ∈ rereading) (given : value.isNull = false)
    (valid : kind.validate value = true) :
    ∃ text, encode? value = some text ∧ kind.read? text = some value ∧
      (itemSeparator ∈ text.toList → value = .string text) := by
  have visible {text : String}
      (visible : ∀ character ∈ text.toList, Text.isBlank character = false) :
      itemSeparator ∈ text.toList → value = .string text :=
    fun member => absurd (visible _ member) (by decide)
  cases kind with
  | double | date | binary | any => simp [rereading] at rereads
  | string =>
      cases value with
      | string text => exact ⟨text, rfl, rfl, fun _ => rfl⟩
      | null => cases given
      | boolean | long | double | date | binary | map | list | array => cases valid
  | boolean =>
      cases value with
      | boolean value =>
          have unbroken : (writeBoolean value).toList.all (!Text.isBlank ·) = true := by
            cases value <;> decide
          refine ⟨writeBoolean value, rfl, read?_writeBoolean value, visible fun _ member => ?_⟩
          simpa using List.all_eq_true.mp unbroken _ member
      | null => cases given
      | string | long | double | date | binary | map | list | array => cases valid
  | integer =>
      cases value with
      | long number =>
          refine ⟨Decimal.writeInt number.toInt, rfl, ?_,
            visible fun _ => Decimal.isBlank_of_mem_writeInt⟩
          have inRange : leastInteger ≤ number.toInt ∧ number.toInt ≤ greatestInteger := by
            simpa [validate, isInteger] using valid
          rw [read?, Decimal.readIntWithin?_writeInt inRange.1 inRange.2, Option.map_some,
            Int64.ofInt_toInt]
      | null => cases given
      | boolean | string | double | date | binary | map | list | array => cases valid
  | long =>
      cases value with
      | long number =>
          refine ⟨Decimal.writeInt number.toInt, rfl, ?_,
            visible fun _ => Decimal.isBlank_of_mem_writeInt⟩
          have low : leastLong ≤ number.toInt := number.le_toInt
          have high : number.toInt ≤ greatestLong := Int.le_sub_one_of_lt number.toInt_lt
          rw [read?, Decimal.readIntWithin?_writeInt low high, Option.map_some, Int64.ofInt_toInt]
      | null => cases given
      | boolean | string | double | date | binary | map | list | array => cases valid

theorem exists_texts (rereads : kind ∈ rereading) {values : List Value}
    (valid : ∀ value ∈ values, value.isNull = false ∧ kind.validate value = true) :
    ∃ texts, List.Forall₂ (fun value text => encode? value = some text) values texts ∧
      List.Forall₂ (fun text value => kind.read? text = some value) texts values ∧
      ((∀ text ∈ texts, itemSeparator ∉ text.toList) ↔
        ∀ content, .string content ∈ values → itemSeparator ∉ content.toList) := by
  induction values with
  | nil => exact ⟨[], .nil, .nil, by simp⟩
  | cons value rest induction =>
      rcases valid value List.mem_cons_self with ⟨given, accepted⟩
      rcases read?_encode? rereads given accepted with ⟨text, written, reread, blank⟩
      rcases induction fun other member => valid other (List.mem_cons_of_mem _ member) with
        ⟨texts, othersWritten, othersReread, others⟩
      refine ⟨text :: texts, .cons written othersWritten, .cons reread othersReread, ?_⟩
      have here : itemSeparator ∉ text.toList ↔
          ∀ content, .string content = value → itemSeparator ∉ content.toList := by
        constructor
        · rintro absent content rfl
          cases written
          exact absent
        · exact fun absent member => absent text (blank member).symm member
      rw [List.forall_mem_cons, here, others]
      simp only [List.mem_cons, or_imp, forall_and]

end PrimitiveKind
end DocumentTypes
