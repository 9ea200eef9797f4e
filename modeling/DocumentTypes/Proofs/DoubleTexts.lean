import DocumentTypes.Proofs.ItemTexts
import DocumentTypes.Proofs.ShortestDigits

/-! # Texts of doubles

Every double is read back from its text. The shortest digits are laid out around a point, reading
collects them again, and the decimal that they make is rounded to the double in whose interval it
lies. Of a NaN only that it is one can be read. -/

namespace DocumentTypes

namespace Shortest

variable {decimal : Significant} {number : Binary64}

theorem write_of_isNaN (notANumber : number.isNaN = true) : write number = "NaN" :=
  if_pos notANumber

/-! ## Rounding -/

theorem high_le (finite : number.isFinite = true) : (interval number).high ≤ 10 ^ 309 * one := by
  have different : number.exponentField ≠ 2047 := by simpa [Binary64.isFinite] using finite
  have exponentSmall := number.exponentField_lt
  have most : number.unitExponent ≤ 2045 := by
    rw [Binary64.unitExponent]
    omega
  have magnitude_eq : number.magnitude = number.significand * 2 ^ number.unitExponent := rfl
  have room : (number.significand + 1) * 2 ^ number.unitExponent ≤
      2 ^ 53 * 2 ^ number.unitExponent := Nat.mul_le_mul_right _ number.significand_lt
  have bound {unit : Nat} (unit_le : 2 ^ number.unitExponent ≤ unit)
      (small : 2 ^ 55 * unit ≤ 10 ^ 309 * one) :
      (interval number).high ≤ 10 ^ 309 * one := by
    rw [Nat.add_mul, Nat.one_mul] at room
    rw [Binary64.interval_eq, magnitude_eq]
    dsimp only
    generalize 2 ^ number.unitExponent = unitOfNumber at *
    generalize 10 ^ 309 * one = limit at *
    omega
  exact bound (Nat.pow_le_pow_right (by decide) most) (by decide +kernel)

theorem Significant.Within.digits_pos (within : decimal.Within (interval number))
    (nonzero : number.magnitude ≠ 0) : 0 < decimal.digits := by
  rcases interval_wide number nonzero with ⟨-, -, low, -⟩
  have least := Nat.lt_of_lt_of_le (Nat.mul_pos low decimal.denominator_pos) within.bounds.1
  refine Nat.pos_of_ne_zero fun none => ?_
  rw [Significant.numerator, none, Nat.zero_mul, Nat.zero_mul] at least
  exact Nat.lt_irrefl _ least

theorem Significant.Within.size (within : decimal.Within (interval number))
    (finite : number.isFinite = true) (nonzero : number.magnitude ≠ 0) :
    -324 < (Nat.toDigits 10 decimal.digits).length + decimal.exponent ∧
      (Nat.toDigits 10 decimal.digits).length + decimal.exponent ≤ 310 := by
  rcases interval_wide number nonzero with ⟨-, -, low, -⟩
  have given : 0 < (Nat.toDigits 10 decimal.digits).length := Nat.length_toDigits_pos
  constructor
  · have small {places : Nat} (one_lt : one < 10 ^ places) : 10 ^ (-decimal.exponent).toNat <
        10 ^ ((Nat.toDigits 10 decimal.digits).length + decimal.exponent.toNat + places) := by
      calc 10 ^ (-decimal.exponent).toNat
          ≤ (interval number).low * decimal.denominator := Nat.le_mul_of_pos_left _ low
        _ ≤ decimal.numerator * one := within.bounds.1
        _ < 10 ^ ((Nat.toDigits 10 decimal.digits).length + decimal.exponent.toNat + places) := by
          rw [Nat.pow_add, Nat.pow_add, Significant.numerator]
          exact Nat.mul_lt_mul_of_lt_of_lt (Nat.mul_lt_mul_of_pos_right
            (lt_pow_length_toDigits decimal.digits) (Nat.pow_pos (by decide))) one_lt
    have one_lt : one < 10 ^ 324 := by decide +kernel
    have exponents := (Nat.pow_lt_pow_iff_right (by decide)).mp (small one_lt)
    omega
  · have small : 10 ^ ((Nat.toDigits 10 decimal.digits).length - 1 + decimal.exponent.toNat) ≤
        10 ^ (309 + (-decimal.exponent).toNat) := by
      refine Nat.le_of_mul_le_mul_right ?_ one_pos
      calc 10 ^ ((Nat.toDigits 10 decimal.digits).length - 1 + decimal.exponent.toNat) * one
          ≤ decimal.numerator * one := by
            rw [Nat.pow_add]
            exact Nat.mul_le_mul_right _ (Nat.mul_le_mul_right _
              (pow_length_toDigits_le (within.digits_pos nonzero)))
        _ ≤ (interval number).high * decimal.denominator := within.bounds.2
        _ ≤ 10 ^ 309 * one * decimal.denominator := Nat.mul_le_mul_right _ (high_le finite)
        _ = 10 ^ (309 + (-decimal.exponent).toNat) * one := by
          rw [Nat.mul_right_comm, Nat.pow_add]
          rfl
    have exponents := (Nat.pow_le_pow_iff_right (by decide)).mp small
    omega

end Shortest

namespace Binary64

variable {number : Binary64}

/-! ## Numbers without digits -/

theorem isFinite_iff :
    number.isFinite = true ↔ ¬number.isNaN = true ∧ ¬number.isInfinite = true := by
  unfold isFinite isNaN isInfinite
  simp only [bne_iff_ne, Bool.and_eq_true, beq_iff_eq]
  tauto

theorem infinity_of_isInfinite (infinite : number.isInfinite = true) :
    infinity number.isNegative = number := by
  have fields : number.exponentField = 2047 ∧ number.fraction = 0 := by
    simpa [isInfinite] using infinite
  have word := number.ofWord_fields
  rw [unitExponent_significand, fields.1, fields.2] at word
  exact word

theorem ofWord_of_zero (zero : number.magnitude = 0) : ofWord number.isNegative 0 = number := by
  have none : number.significand = 0 := by
    rcases Nat.mul_eq_zero.mp zero with none | unit
    · exact none
    · exact absurd unit (Nat.ne_of_gt (Nat.two_pow_pos _))
  have first : number.unitExponent = 0 := by
    rw [significand, Nat.pow_eq] at none
    rw [unitExponent]
    split at none <;> omega
  have word := number.ofWord_fields
  rwa [none, first] at word

theorem not_isNaN_ofWord {word : Nat} (negative : Bool) (bounded : word ≤ infinityWord) :
    (ofWord negative word).isNaN = false := by
  have bounded : word ≤ 2047 * 2 ^ 52 := bounded
  have whole : (ofWord negative word).word = if negative then 2 ^ 63 + word else word := by
    have small : (if negative then 2 ^ 63 + word else word) < 2 ^ 64 := by split <;> omega
    exact UInt64.toNat_ofNat_of_lt' small
  rw [Bool.eq_false_iff]
  intro notANumber
  simp only [isNaN, exponentField, fraction, Nat.pow_eq, Bool.and_eq_true, beq_iff_eq, bne_iff_ne,
    whole] at notANumber
  split at notANumber <;> omega

theorem not_isNaN_ofFraction (negative : Bool) (numerator denominator : Nat) :
    (ofFraction negative numerator denominator).isNaN = false :=
  not_isNaN_ofWord negative (Nat.min_le_left ..)

end Binary64

namespace Decimal

open Shortest (Significant)

variable {decimal : Significant} {number : Binary64} {negative : Bool}

/-- To read a decimal is to round its fraction, if the cut-offs leave it alone. -/
theorem toBinary64_eq_ofFraction (given : decimal.digits ≠ 0)
    (least : -330 ≤ (Nat.toDigits 10 decimal.digits).length + decimal.exponent)
    (most : (Nat.toDigits 10 decimal.digits).length + decimal.exponent ≤ 320) :
    toBinary64 negative decimal.digits decimal.exponent =
      Binary64.ofFraction negative decimal.numerator decimal.denominator := by
  have inside : ¬(decimal.digits = 0 ∨
      (Nat.toDigits 10 decimal.digits).length + decimal.exponent < -330) := by omega
  unfold toBinary64 Significant.numerator Significant.denominator
  simp only [Bool.or_eq_true, decide_eq_true_eq, if_neg inside, if_neg (Int.not_lt.mpr most)]
  split
  next low =>
    have sizes : decimal.exponent.toNat = 0 ∧
        (-decimal.exponent).toNat = decimal.exponent.natAbs := by omega
    rw [sizes.1, sizes.2, Nat.pow_zero, Nat.mul_one, Nat.pow_eq]
  next high =>
    have sizes : (-decimal.exponent).toNat = 0 ∧
        decimal.exponent.toNat = decimal.exponent.natAbs := by omega
    rw [sizes.1, sizes.2, Nat.pow_zero, Nat.pow_eq]

theorem toBinary64_of_within (within : decimal.Within (Shortest.interval number))
    (finite : number.isFinite = true) (nonzero : number.magnitude ≠ 0) :
    toBinary64 number.isNegative decimal.digits decimal.exponent = number := by
  have sizes := within.size finite nonzero
  rw [toBinary64_eq_ofFraction (Nat.ne_of_gt (within.digits_pos nonzero)) (by omega) (by omega)]
  exact Binary64.ofFraction_of_contains finite decimal.denominator_pos within

/-! ## Points -/

theorem spanDigits_append {digits : List Char}
    (each : ∀ character ∈ digits, character.isDigit = true) (rest : List Char)
    (stops : ∀ character ∈ rest.head?, character.isDigit = false) :
    spanDigits (digits ++ rest) = (digits, rest) := by
  have here : rest.takeWhile Char.isDigit = [] ∧ rest.dropWhile Char.isDigit = rest := by
    cases rest with
    | nil => exact ⟨rfl, rfl⟩
    | cons character others => simp [stops character rfl]
  rw [spanDigits, List.takeWhile_append_of_pos each, List.dropWhile_append_of_pos each, here.1,
    here.2, List.append_nil]

theorem readScientific?_whole_append {digits rest : List Char} (given : digits ≠ [])
    (each : ∀ character ∈ digits, character.isDigit = true)
    (stops : ∀ character ∈ rest.head?, character.isDigit = false ∧ character ≠ '.') :
    readScientific? (digits ++ rest) =
      (readExponent? rest).map fun exponent => (Nat.ofDigitChars 10 digits 0, exponent) := by
  have spanned : spanDigits (digits ++ rest) = (digits, rest) :=
    spanDigits_append each rest fun character first => (stops character first).1
  unfold readScientific?
  rw [spanned]
  dsimp only
  split
  next tail _ => exact absurd rfl (stops '.' rfl).2
  next => simp [given]

theorem readScientific?_point_append {whole places rest : List Char} (given : whole ≠ [])
    (eachWhole : ∀ character ∈ whole, character.isDigit = true)
    (eachPlace : ∀ character ∈ places, character.isDigit = true)
    (stops : ∀ character ∈ rest.head?, character.isDigit = false) :
    readScientific? (whole ++ '.' :: (places ++ rest)) =
      (readExponent? rest).map fun exponent : Int =>
        (Nat.ofDigitChars 10 (whole ++ places) 0, exponent - places.length) := by
  have spannedWhole : spanDigits (whole ++ '.' :: (places ++ rest)) =
      (whole, '.' :: (places ++ rest)) := spanDigits_append eachWhole _ (by simp)
  unfold readScientific?
  rw [spannedWhole]
  simp [spanDigits_append eachPlace rest stops, given]

theorem readScientific?_whole {digits : List Char} (given : digits ≠ [])
    (each : ∀ character ∈ digits, character.isDigit = true) :
    readScientific? digits = some (Nat.ofDigitChars 10 digits 0, 0) := by
  simpa [readExponent?] using readScientific?_whole_append given each (by simp : ∀ character ∈
    ([] : List Char).head?, character.isDigit = false ∧ character ≠ '.')

theorem readScientific?_point {whole places : List Char} (given : whole ≠ [])
    (eachWhole : ∀ character ∈ whole, character.isDigit = true)
    (eachPlace : ∀ character ∈ places, character.isDigit = true) :
    readScientific? (whole ++ '.' :: places) =
      some (Nat.ofDigitChars 10 (whole ++ places) 0, -(places.length : Int)) := by
  simpa [readExponent?] using readScientific?_point_append given eachWhole eachPlace
    (by simp : ∀ character ∈ ([] : List Char).head?, character.isDigit = false)

/-- The digits around a point stand for the decimal, except that zeros before the point become
digits. -/
theorem readScientific?_positional (decimal : Significant) : ∃ other : Significant,
    readScientific? (Shortest.positional decimal).toList = some (other.digits, other.exponent) ∧
    other.numerator = decimal.numerator ∧ other.denominator = decimal.denominator := by
  rcases (⟨_, rfl⟩ : ∃ digits, Nat.toDigits 10 decimal.digits = digits) with ⟨digits, digits_eq⟩
  have given : digits ≠ [] := digits_eq ▸ Nat.toDigits_ne_nil
  have each : ∀ character ∈ digits, character.isDigit = true :=
    fun _ member => Nat.isDigit_of_mem_toDigits (by decide) (by decide) (digits_eq ▸ member)
  have value : Nat.ofDigitChars 10 digits 0 = decimal.digits :=
    digits_eq ▸ Nat.ofDigitChars_ten_toDigits
  have written : writeNat decimal.digits = String.ofList digits := by rw [writeNat, digits_eq]
  have zeros {count : Nat} : ∀ character ∈ List.replicate count '0' ++ digits,
      character.isDigit = true := by
    intro character member
    rcases List.mem_append.mp member with zero | digit
    · rw [List.eq_of_mem_replicate zero]
      rfl
    · exact each character digit
  unfold Shortest.positional
  simp only [written, String.length_ofList, String.toList_ofList]
  generalize position_eq : (digits.length : Int) + decimal.exponent = position
  split
  next whole =>
    refine ⟨⟨decimal.digits * 10 ^ decimal.exponent.toNat, 0⟩, ?_, ?_, ?_⟩
    · have text : (String.ofList digits ++ Shortest.zeros decimal.exponent).toList =
          digits ++ List.replicate decimal.exponent.toNat '0' := by simp [Shortest.zeros]
      rw [text, readScientific?_whole (by simp [given]), Nat.ofDigitChars_append, value,
        Nat.ofDigitChars_replicate_zero, Nat.mul_comm]
      exact fun character member => zeros character
        (List.mem_append.mpr (List.mem_append.mp member).symm)
    · simp [Significant.numerator]
    · have none : (-decimal.exponent).toNat = 0 := by omega
      simp [Significant.denominator, none]
  next negative =>
    refine ⟨decimal, ?_, rfl, rfl⟩
    split
    next inside =>
      have text : (String.ofList (digits.take position.toNat) ++ "." ++
          String.ofList (digits.drop position.toNat)).toList =
          digits.take position.toNat ++ '.' :: digits.drop position.toNat := by simp
      have some : digits.take position.toNat ≠ [] := by
        simp only [Ne, List.take_eq_nil_iff, given, or_false]
        omega
      have places : -((digits.drop position.toNat).length : Int) = decimal.exponent := by
        rw [List.length_drop]
        omega
      rw [text, readScientific?_point some (fun _ member => each _ (List.mem_of_mem_take member))
        fun _ member => each _ (List.mem_of_mem_drop member), List.take_append_drop, value, places]
    next before =>
      have text : ("0." ++ Shortest.zeros (-position) ++ String.ofList digits).toList =
          ['0'] ++ '.' :: (List.replicate (-position).toNat '0' ++ digits) := by
        simp [Shortest.zeros]
      have leading : Nat.ofDigitChars 10 (['0'] ++ (List.replicate (-position).toNat '0' ++ digits))
          0 = decimal.digits := by
        rw [Nat.ofDigitChars_append, Nat.ofDigitChars_append, Nat.ofDigitChars_replicate_zero]
        exact value
      have places : -((List.replicate (-position).toNat '0' ++ digits).length : Int) =
          decimal.exponent := by
        rw [List.length_append, List.length_replicate]
        omega
      rw [text, readScientific?_point (by simp) (by simp) zeros, leading, places]

/-! ## Signs -/

theorem readScientific?_sign {sign : Char} (rest : List Char) (isSign : sign = '-' ∨ sign = '+') :
    readScientific? (sign :: rest) = none := by
  rcases isSign with rfl | rfl <;> rfl

theorem readReal?_of_readScientific? {text : String} {digits : Nat} {exponent : Int}
    (read : readScientific? text.toList = some (digits, exponent)) :
    readReal? ((if negative then "-" else "") ++ text) =
      some (toBinary64 negative digits exponent) := by
  unfold readReal?
  cases negative with
  | true =>
      have signed : ((if true then "-" else "") ++ text).toList = '-' :: text.toList := by simp
      rw [signed]
      simp only [read]
  | false =>
      have unsigned : ((if false then "-" else "") ++ text).toList = text.toList := by simp
      rw [unsigned]
      split
      next sign rest opening =>
        split at opening
        next others begins =>
          rw [begins, readScientific?_sign others (.inl rfl)] at read
          cases read
        next others begins =>
          rw [begins, readScientific?_sign others (.inr rfl)] at read
          cases read
        next =>
          cases opening
          simp only [read]

/-! ## Reading back -/

theorem readReal?_infinity (negative : Bool) :
    readReal? ((if negative then "-" else "") ++ "inf") = some (Binary64.infinity negative) := by
  cases negative <;> decide +kernel

/-- Every double is read back from its text, except that all NaN have the same. -/
theorem readReal?_write (number : Binary64) :
    readReal? (Shortest.write number) = some (if number.isNaN then Binary64.nan else number) := by
  unfold Shortest.write
  dsimp only
  split
  next => decide +kernel
  next notNaN =>
    split
    next infinite =>
      rw [readReal?_infinity, Binary64.infinity_of_isInfinite infinite]
    next notInfinite =>
      have finite : number.isFinite = true := Binary64.isFinite_iff.mpr ⟨notNaN, notInfinite⟩
      split
      next zero =>
        have read : readScientific? "0".toList = some (0, 0) := by decide
        rw [readReal?_of_readScientific? read]
        exact congrArg some (Binary64.ofWord_of_zero zero)
      next nonzero =>
        have within := Shortest.significant_within .upward nonzero
        rcases readScientific?_positional (Shortest.significant .upward number) with
          ⟨other, read, numerator, denominator⟩
        have otherWithin : other.Within (Shortest.interval number) := by
          unfold Significant.Within at within ⊢
          rwa [numerator, denominator]
        rw [readReal?_of_readScientific? read, toBinary64_of_within otherWithin finite nonzero]

theorem not_isNaN_toBinary64 (negative : Bool) (digits : Nat) (exponent : Int) :
    (toBinary64 negative digits exponent).isNaN = false := by
  unfold toBinary64
  dsimp only
  split
  · exact Binary64.not_isNaN_ofWord negative (Nat.zero_le _)
  · split
    · exact Binary64.not_isNaN_ofWord negative (Nat.le_refl _)
    · split <;> exact Binary64.not_isNaN_ofFraction ..

theorem eq_nan_of_readReal? {text : String} {number : Binary64}
    (read : readReal? text = some number) (notANumber : number.isNaN = true) :
    number = Binary64.nan := by
  unfold readReal? at read
  split at read
  next negative unsigned _ =>
    split at read
    next digits exponent _ =>
      cases read
      rw [not_isNaN_toBinary64] at notANumber
      cases notANumber
    next =>
      unfold readSpecial? at read
      split at read
      · cases read
        rw [Binary64.infinity, Binary64.not_isNaN_ofWord negative (Nat.le_refl _)] at notANumber
        cases notANumber
      · cases read
        rw [Binary64.infinity, Binary64.not_isNaN_ofWord negative (Nat.le_refl _)] at notANumber
        cases notANumber
      · exact (Option.some.inj read).symm
      · cases read

end Decimal

namespace Shortest

/-! ## Blanks -/

theorem isBlank_of_mem_zeros {count : Int} {character : Char}
    (member : character ∈ (zeros count).toList) : Text.isBlank character = false := by
  rw [zeros, String.toList_ofList] at member
  rw [List.eq_of_mem_replicate member]
  rfl

theorem isBlank_of_mem_positional {decimal : Significant} {character : Char}
    (member : character ∈ (positional decimal).toList) : Text.isBlank character = false := by
  have digit (member : character ∈ (Decimal.writeNat decimal.digits).toList) :
      Text.isBlank character = false := by
    rw [Decimal.writeNat, String.toList_ofList] at member
    exact Text.isBlank_of_isDigit (Nat.isDigit_of_mem_toDigits (by decide) (by decide) member)
  unfold positional at member
  dsimp only at member
  split at member
  next =>
    rw [String.toList_append, List.mem_append] at member
    exact member.elim digit isBlank_of_mem_zeros
  next =>
    split at member
    all_goals
      simp only [String.toList_append, String.toList_ofList, List.mem_append] at member
      rcases member with (first | middle) | last
    · exact digit (List.mem_of_mem_take first)
    · rw [List.mem_singleton.mp middle]
      rfl
    · exact digit (List.mem_of_mem_drop last)
    · rcases List.mem_pair.mp first with rfl | rfl <;> rfl
    · exact isBlank_of_mem_zeros middle
    · exact digit last

theorem isBlank_of_mem_write {number : Binary64} {character : Char}
    (member : character ∈ (write number).toList) : Text.isBlank character = false := by
  have fixed {text : String} (visible : text.toList.all (!Text.isBlank ·) = true)
      (member : character ∈ text.toList) : Text.isBlank character = false := by
    simpa using List.all_eq_true.mp visible character member
  have signed {text : String} (visible : character ∈ text.toList → Text.isBlank character = false)
      (member : character ∈ ((if number.isNegative then "-" else "") ++ text).toList) :
      Text.isBlank character = false := by
    rw [String.toList_append, List.mem_append] at member
    refine member.elim (fixed ?_) visible
    split <;> decide
  unfold write at member
  dsimp only at member
  split at member
  · exact fixed (by decide) member
  · split at member
    · exact signed (fixed (by decide)) member
    · split at member
      · exact signed (fixed (by decide)) member
      · exact signed isBlank_of_mem_positional member

end Shortest

namespace PrimitiveKind

theorem read?_write (number : Binary64) : PrimitiveKind.double.read? (Shortest.write number) =
    some (.double (if number.isNaN then Binary64.nan else number)) := by
  rw [read?, Text.trim_of_visible fun _ => Shortest.isBlank_of_mem_write, Decimal.readReal?_write]
  rfl

end PrimitiveKind
end DocumentTypes
