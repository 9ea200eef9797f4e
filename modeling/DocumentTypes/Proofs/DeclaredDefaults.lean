import DocumentTypes.Proofs.DoubleTexts
import DocumentTypes.Proofs.FieldPaths
import DocumentTypes.Proofs.Numerals
import DocumentTypes.Proofs.PrimitiveMemos

/-! # Declared defaults

A document declares a default as a string, a number or a boolean, and a field keeps a text. The
text is read again when a default is asked for, and then it stands for what was declared. -/

namespace DocumentTypes

open Shortest (Significant)

namespace Decimal

variable {decimal : Significant} {number : Binary64}

theorem readScientific?_pointZero (whole : 0 ≤ decimal.exponent) : ∃ other : Significant,
    readScientific? (Shortest.positional decimal ++ ".0").toList =
      some (other.digits, other.exponent) ∧
    ∀ range, other.Within range ↔ decimal.Within range := by
  rcases (⟨_, rfl⟩ : ∃ digits, Nat.toDigits 10 decimal.digits = digits) with ⟨digits, digits_eq⟩
  have given : digits ≠ [] := digits_eq ▸ Nat.toDigits_ne_nil
  have value : Nat.ofDigitChars 10 digits 0 = decimal.digits :=
    digits_eq ▸ Nat.ofDigitChars_ten_toDigits
  have written : writeNat decimal.digits = String.ofList digits := by rw [writeNat, digits_eq]
  let whole := digits ++ List.replicate decimal.exponent.toNat '0'
  have each : ∀ character ∈ whole, character.isDigit = true := by
    intro character member
    rcases List.mem_append.mp member with digit | zero
    · exact Nat.isDigit_of_mem_toDigits (by decide) (by decide) (digits_eq ▸ digit)
    · rw [List.eq_of_mem_replicate zero]
      rfl
  have text : (Shortest.positional decimal ++ ".0").toList = whole ++ '.' :: ['0'] := by
    unfold Shortest.positional
    simp only [written, String.length_ofList]
    rw [if_pos (by omega)]
    simp [whole, Shortest.zeros]
  have digits_value : Nat.ofDigitChars 10 (whole ++ ['0']) 0 =
      10 * (decimal.digits * 10 ^ decimal.exponent.toNat) := by
    rw [Nat.ofDigitChars_append, Nat.ofDigitChars_append, value, Nat.ofDigitChars_replicate_zero,
      Nat.mul_comm decimal.digits]
    rfl
  refine ⟨⟨10 * (decimal.digits * 10 ^ decimal.exponent.toNat), -1⟩, ?_, fun range => ?_⟩
  · rw [text, readScientific?_point (by simp [whole, given]) each
        (List.forall_mem_singleton.mpr rfl),
      digits_value]
    rfl
  · rw [Significant.within_carry]
    unfold Significant.Within
    have none : (-decimal.exponent).toNat = 0 := by omega
    simp [Significant.numerator, Significant.denominator, none]

theorem readScientific?_exponential (decimal : Significant) :
    let digits := writeNat decimal.digits
    let places := digits.toList.drop 1
    readScientific? (String.ofList (digits.toList.take 1) ++ (if places.isEmpty then "" else ".") ++
      String.ofList places ++ "e" ++
        writeInt ((digits.length : Int) + decimal.exponent - 1)).toList =
      some (decimal.digits, decimal.exponent) := by
  have digit : ∀ character ∈ Nat.toDigits 10 decimal.digits, character.isDigit = true :=
    fun _ => Nat.isDigit_of_mem_toDigits (by decide) (by decide)
  have value : Nat.ofDigitChars 10 (Nat.toDigits 10 decimal.digits) 0 = decimal.digits :=
    Nat.ofDigitChars_ten_toDigits
  have exponent (power : Int) : readExponent? ('e' :: (writeInt power).toList) = some power := by
    simp [readExponent?, readInt?_writeInt]
  have stops (power : Int) : ∀ character ∈ ('e' :: (writeInt power).toList).head?,
      character.isDigit = false ∧ character ≠ '.' := by simp
  simp only [writeNat, String.toList_ofList, String.length_ofList]
  cases opening : Nat.toDigits 10 decimal.digits with
  | nil => exact absurd opening Nat.toDigits_ne_nil
  | cons first places =>
      rw [opening] at digit value
      have firstDigit : ∀ character ∈ [first], character.isDigit = true :=
        fun character same => digit character (List.mem_singleton.mp same ▸ List.mem_cons_self)
      cases places with
      | nil =>
          have read := readScientific?_whole_append (List.cons_ne_nil first []) firstDigit
            (stops decimal.exponent)
          rw [exponent, value] at read
          simpa using read
      | cons second others =>
          have power : (others.length : Int) + 1 + 1 + decimal.exponent - 1 =
            (others.length : Int) + 1 + decimal.exponent := by omega
          have read := readScientific?_point_append (List.cons_ne_nil first []) firstDigit
            (fun character member => digit character (List.mem_cons_of_mem _ member))
            fun character same => (stops (others.length + 1 + decimal.exponent) character same).1
          simp only [exponent, List.cons_append, List.nil_append, value] at read
          simpa [power] using read

end Decimal

namespace Yaml.Data

variable {number : Binary64}

/-- Every finite double is read back from its text. -/
theorem readReal?_writeReal (finite : number.isFinite = true) :
    Decimal.readReal? (writeReal number) = some number := by
  rcases Binary64.isFinite_iff.mp finite with ⟨notNaN, notInfinite⟩
  unfold writeReal
  dsimp only
  rw [if_neg notNaN, if_neg notInfinite]
  split
  next zero =>
    have read : Decimal.readScientific? "0.0".toList = some (0, -1) := by decide
    rw [Decimal.readReal?_of_readScientific? read]
    exact congrArg some (Binary64.ofWord_of_zero zero)
  next nonzero =>
    have within := Shortest.significant_within .even nonzero
    generalize Shortest.significant .even number = decimal at within ⊢
    have reads {other : Significant} {text : String}
        (read : Decimal.readScientific? text.toList = some (other.digits, other.exponent))
        (otherWithin : other.Within (Shortest.interval number)) :
        Decimal.readReal? ((if number.isNegative then "-" else "") ++ text) = some number := by
      rw [Decimal.readReal?_of_readScientific? read,
        Decimal.toBinary64_of_within otherWithin finite nonzero]
    split
    next =>
      rw [String.append_assoc]
      by_cases whole : 0 ≤ decimal.exponent
      · rcases Decimal.readScientific?_pointZero whole with ⟨other, read, same⟩
        rw [if_pos whole]
        exact reads read ((same _).mpr within)
      · rcases Decimal.readScientific?_positional decimal with
          ⟨other, read, numerator, denominator⟩
        rw [if_neg whole, String.append_empty]
        refine reads read ?_
        unfold Significant.Within at within ⊢
        rwa [numerator, denominator]
    next =>
      have given := reads (Decimal.readScientific?_exponential decimal) within
      simp only [String.append_assoc] at given ⊢
      exact given

theorem isBlank_of_mem_writeReal {character : Char} (finite : number.isFinite = true)
    (member : character ∈ (writeReal number).toList) : Text.isBlank character = false := by
  have fixed {text : String} (visible : text.toList.all (!Text.isBlank ·) = true)
      (member : character ∈ text.toList) : Text.isBlank character = false := by
    simpa using List.all_eq_true.mp visible character member
  have sign (member : character ∈ (if number.isNegative then "-" else "").toList) :
      Text.isBlank character = false := by
    refine fixed ?_ member
    split <;> decide
  have digit {digits : Nat} (member : character ∈ (Decimal.writeNat digits).toList) :
      Text.isBlank character = false := by
    rw [Decimal.writeNat, String.toList_ofList] at member
    exact Text.isBlank_of_isDigit (Nat.isDigit_of_mem_toDigits (by decide) (by decide) member)
  rcases Binary64.isFinite_iff.mp finite with ⟨notNaN, notInfinite⟩
  unfold writeReal at member
  dsimp only at member
  rw [if_neg notNaN, if_neg notInfinite] at member
  split at member
  next =>
    rw [String.toList_append, List.mem_append] at member
    exact member.elim sign (fixed (by decide))
  next =>
    generalize Shortest.significant .even number = decimal at member
    split at member
    next =>
      simp only [String.toList_append, List.mem_append] at member
      rcases member with (negative | shown) | zero
      · exact sign negative
      · exact Shortest.isBlank_of_mem_positional shown
      · exact fixed (by split <;> decide) zero
    next =>
      simp only [String.toList_append, String.toList_ofList, List.mem_append] at member
      rcases member with ((((negative | first) | point) | places) | mark) | power
      · exact sign negative
      · exact digit (List.mem_of_mem_take first)
      · exact fixed (by split <;> decide) point
      · exact digit (List.mem_of_mem_drop places)
      · exact fixed (by decide) mark
      · exact Decimal.isBlank_of_mem_writeInt power

/-- A scalar of a document stands for a value of a primitive type. -/
inductive Means : Data → PrimitiveKind → Value → Prop
  | string (text : String) : Means (.string text) .string (.string text)
  | boolean (flag : Bool) : Means (.boolean flag) .boolean (.boolean flag)
  | whole {kind : PrimitiveKind} {least greatest : Int} (spans : kind.Spans least greatest)
      (number : Int64) (low : least ≤ number.toInt) (high : number.toInt ≤ greatest) :
      Means (.integer number.toInt) kind (.long number)
  | real (number : Binary64) (finite : number.isFinite = true) :
      Means (.real number) .double (.double number)

variable {data : Data} {kind : PrimitiveKind} {value : Value}

theorem Means.read?_scalarText? (means : data.Means kind value) :
    ∃ text, data.scalarText? = some text ∧ kind.read? text = some value := by
  cases means with
  | string text => exact ⟨text, rfl, rfl⟩
  | boolean flag => exact ⟨_, rfl, PrimitiveKind.read?_writeBoolean flag⟩
  | whole spans number low high =>
      refine ⟨_, rfl, ?_⟩
      rw [spans.read?_eq_some_iff]
      exact Decimal.readIntWithin?_writeInt low high
  | real number finite =>
      refine ⟨_, rfl, ?_⟩
      rw [PrimitiveKind.read?, Text.trim_of_visible fun _ => isBlank_of_mem_writeReal finite,
        readReal?_writeReal finite]
      rfl

end Yaml.Data

/-- The default of a field is the value that was declared, if this is a value of the primitive that
the type of the field finds. -/
theorem Store.ShowsField.run_defaultOf {store : Store} {declared : FieldDefinition} {field : Field}
    (shows : store.ShowsField declared field) (single : declared.isList = false)
    {data : Yaml.Data} {kind : PrimitiveKind} {value : Value}
    (given : declared.default = some data) (means : data.Means kind value)
    {id primitive : TypeId} {trail : List TypeId}
    (resolved : store.resolve field.valueType = some id) (finds : store.Finds id trail primitive)
    (found : store.primitiveAt? primitive = some kind) :
    (Attempt.defaultOf field).run.run store = (.ok value, store.rememberAll trail primitive) := by
  rcases means.read?_scalarText? with ⟨text, written, read⟩
  have kept : field.defaultText = some text := by
    rw [(shows.single single).1, FieldDefinition.defaultText?, given]
    cases means <;> exact written
  have decoded : kind.decode (some text) = .ok value := by rw [PrimitiveKind.decode, read]
  rw [Attempt.run_defaultOf resolved kept, finds.run_decode found, decoded]

end DocumentTypes
