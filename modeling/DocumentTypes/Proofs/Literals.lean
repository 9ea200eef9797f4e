import DocumentTypes.Constraint
import DocumentTypes.Proofs.DoubleTexts

/-! # Literals

An enumeration holds the text of a value against its literals. So a literal stands for the value
that is read from it only if it is written as values are: a whole number without leading zeros and
without a plus, a truth value in lower case, a double in its shortest digits. Instants and bytes
have no literals at all. -/

namespace DocumentTypes

namespace Decimal

variable {text : String} {digits : List Char} {value : Int}

/-! ## Whole numbers -/

def arePlain (digits : List Char) : Bool :=
  !digits.isEmpty && digits.all Char.isDigit && (digits.head? != some '0' || digits == ['0'])

/-- A whole number as it is written: no leading zeros, and no sign but a minus before a number
other than zero. -/
def isPlain (text : String) : Bool :=
  match text.toList with
  | '-' :: digits => arePlain digits && digits != ['0']
  | digits => arePlain digits

theorem arePlain_iff : arePlain digits = true ↔ digits ≠ [] ∧
    (∀ character ∈ digits, character.isDigit = true) ∧
    (digits.head? = some '0' → digits = ['0']) := by
  simp only [arePlain, Bool.and_eq_true, Bool.or_eq_true, Bool.not_eq_true', List.all_eq_true,
    List.isEmpty_eq_false_iff, bne_iff_ne, beq_iff_eq, ne_eq, and_assoc, imp_iff_not_or]

theorem digitChar_of_isDigit {character : Char} (digit : character.isDigit = true) :
    character.toNat - '0'.toNat < 10 ∧
      Nat.digitChar (character.toNat - '0'.toNat) = character := by
  have bounds := Char.isDigit_iff_toNat.mp digit
  have zero : '0'.toNat = 48 := rfl
  have nine : '9'.toNat = 57 := rfl
  refine ⟨by omega, Char.toNat_inj.mp ?_⟩
  rw [Nat.toNat_digitChar_of_lt_ten (by omega)]
  omega

theorem toDigits_append {count : Nat} (positive : 0 < count)
    (each : ∀ character ∈ digits, character.isDigit = true) :
    Nat.toDigits 10 count ++ digits = Nat.toDigits 10 (Nat.ofDigitChars 10 digits count) := by
  induction digits generalizing count with
  | nil => rw [List.append_nil, Nat.ofDigitChars_nil]
  | cons character rest induction =>
      rcases digitChar_of_isDigit (each character List.mem_cons_self) with ⟨small, same⟩
      have next := Nat.toDigits_append_toDigits (by decide : 1 < 10) positive small
      rw [Nat.toDigits_of_lt_base small, same] at next
      rw [Nat.ofDigitChars_cons, ← induction (by omega)
        fun other member => each other (List.mem_cons_of_mem _ member), ← next,
        List.append_assoc, List.singleton_append]

theorem toDigits_ofDigitChars (plain : arePlain digits = true) :
    Nat.toDigits 10 (Nat.ofDigitChars 10 digits 0) = digits := by
  rcases arePlain_iff.mp plain with ⟨given, each, leading⟩
  rcases List.exists_cons_of_ne_nil given with ⟨first, rest, rfl⟩
  by_cases zero : first = '0'
  · rw [leading (congrArg some zero)]
    rfl
  · rcases digitChar_of_isDigit (each first List.mem_cons_self) with ⟨small, same⟩
    have positive : 0 < first.toNat - '0'.toNat := by
      refine Nat.pos_of_ne_zero fun none => zero ?_
      rw [← same, none]
      rfl
    rw [Nat.ofDigitChars_cons, Nat.mul_zero, Nat.zero_add, ← toDigits_append positive
      fun other member => each other (List.mem_cons_of_mem _ member),
      Nat.toDigits_of_lt_base small, same, List.singleton_append]

theorem head?_toDigits {count : Nat} (positive : 0 < count) :
    (Nat.toDigits 10 count).head? ≠ some '0' := by
  induction count using Nat.strongRecOn with
  | ind count induction =>
      rw [Nat.toDigits_eq_if (by decide)]
      split
      next small =>
        intro zero
        have digit : Nat.digitChar count = '0' := Option.some.inj zero
        rw [Nat.digitChar_eq_zero] at digit
        omega
      next great =>
        rw [List.head?_append_of_ne_nil _ Nat.toDigits_ne_nil]
        exact induction _ (by omega) (by omega)

theorem arePlain_toDigits (count : Nat) : arePlain (Nat.toDigits 10 count) = true := by
  refine arePlain_iff.mpr ⟨Nat.toDigits_ne_nil, fun _ member =>
    Nat.isDigit_of_mem_toDigits (by decide) (by decide) member, fun zero => ?_⟩
  rcases Nat.eq_zero_or_pos count with rfl | positive
  · rfl
  · exact absurd zero (head?_toDigits positive)

theorem isPlain_minus (starts : text.toList = '-' :: digits) :
    isPlain text = true ↔ arePlain digits = true ∧ digits ≠ ['0'] := by
  rw [isPlain, starts]
  simp

theorem isPlain_unsigned (unsigned : ∀ rest, text.toList ≠ '-' :: rest) :
    isPlain text = arePlain text.toList := by
  unfold isPlain
  split
  next rest starts => exact absurd starts (unsigned rest)
  next => rfl

theorem isPlain_writeInt (value : Int) : isPlain (writeInt value) = true := by
  unfold writeInt
  split
  next negative =>
    have starts : ("-" ++ writeNat value.natAbs).toList = '-' :: Nat.toDigits 10 value.natAbs := by
      simp [writeNat]
    refine (isPlain_minus starts).mpr ⟨arePlain_toDigits _, fun zero => ?_⟩
    exact head?_toDigits (by omega) (congrArg List.head? zero)
  next =>
    have digits : (writeNat value.natAbs).toList = Nat.toDigits 10 value.natAbs := by
      simp [writeNat]
    rw [isPlain_unsigned, digits]
    · exact arePlain_toDigits _
    · intro rest starts
      have digit : '-'.isDigit = true := Nat.isDigit_of_mem_toDigits (by decide) (by decide)
        (digits ▸ starts ▸ List.mem_cons_self)
      cases digit

/-- What is written plainly is the text of a whole number. -/
theorem isPlain_iff : isPlain text = true ↔ ∃ value, text = writeInt value := by
  refine ⟨fun plain => ?_, fun ⟨value, same⟩ => same ▸ isPlain_writeInt value⟩
  simp only [← String.toList_inj]
  by_cases signed : ∃ digits, text.toList = '-' :: digits
  · rcases signed with ⟨digits, starts⟩
    rcases (isPlain_minus starts).mp plain with ⟨plain, given⟩
    have same := toDigits_ofDigitChars plain
    have nonzero : Nat.ofDigitChars 10 digits 0 ≠ 0 := by
      intro zero
      rw [zero] at same
      exact given same.symm
    refine ⟨-(Nat.ofDigitChars 10 digits 0 : Int), ?_⟩
    rw [writeInt, if_pos (by omega), Int.natAbs_neg, Int.natAbs_natCast, writeNat, same, starts]
    simp
  · rw [isPlain_unsigned fun rest starts => signed ⟨rest, starts⟩] at plain
    refine ⟨(Nat.ofDigitChars 10 text.toList 0 : Int), ?_⟩
    rw [writeInt, if_neg (by omega), Int.natAbs_natCast, writeNat, toDigits_ofDigitChars plain,
      String.toList_ofList]

example : isPlain "-120" = true := by cbv
example : isPlain "007" = false := by cbv

end Decimal

/-! ## Primitives -/

namespace PrimitiveKind

variable {kind : PrimitiveKind} {text literal : String} {value : Value}

def IsLiteral (kind : PrimitiveKind) (text : String) : Prop :=
  match kind with
  | .string | .any => True
  | .boolean => text = "true" ∨ text = "false"
  | .integer | .long => Decimal.isPlain text = true
  | .double => ∃ number, text = Shortest.write number
  | .date | .binary => False

theorem literal?_of_readIntWithin? {least greatest : Int} (low : leastLong ≤ least)
    (high : greatest ≤ greatestLong)
    (read : (Decimal.readIntWithin? least greatest (Text.trim text)).map
      (fun number => Value.long (Int64.ofInt number)) = some value) :
    ∃ number, Constraint.literal? value = some (Decimal.writeInt number) ∧
      (Decimal.readIntWithin? least greatest (Text.trim (Decimal.writeInt number))).map
        (fun number => Value.long (Int64.ofInt number)) = some value ∧
      (Decimal.isPlain text = true → text = Decimal.writeInt number) := by
  rcases Option.map_eq_some_iff.mp read with ⟨number, within, rfl⟩
  rcases Decimal.readIntWithin?_eq_some_iff.mp within with ⟨-, atLeast, atMost⟩
  have exact : (Int64.ofInt number).toInt = number := by
    have lowest : leastLong = -9223372036854775808 := by decide
    have highest : greatestLong = 9223372036854775807 := by decide
    exact Int64.toInt_ofInt_of_le (by omega) (by omega)
  refine ⟨number, ?_, ?_, fun plain => ?_⟩
  · rw [Constraint.literal?, exact]
  · rw [Decimal.readIntWithin?_writeInt atLeast atMost]
    rfl
  · rcases Decimal.isPlain_iff.mp plain with ⟨other, rfl⟩
    rw [Text.trim_of_visible fun _ => Decimal.isBlank_of_mem_writeInt,
      Decimal.readIntWithin?_eq_some_iff, Decimal.readInt?_writeInt] at within
    rw [Option.some.inj within.1]

theorem literal?_of_read? (isLiteral : kind.IsLiteral text) (read : kind.read? text = some value) :
    Constraint.literal? value = some text := by
  cases kind with
  | string | any =>
      cases read
      rfl
  | boolean =>
      rcases isLiteral with rfl | rfl <;> cases read <;> rfl
  | integer | long =>
      rw [read?] at read
      rcases literal?_of_readIntWithin? (by decide) (by decide) read with ⟨number, known, -, same⟩
      rw [known, ← same isLiteral]
  | double =>
      rcases isLiteral with ⟨number, rfl⟩
      rw [read?_write] at read
      cases read
      rw [Constraint.literal?]
      split
      next notANumber =>
        rw [Shortest.write_of_isNaN notANumber]
        exact congrArg some (by decide +kernel)
      next => rfl
  | date | binary => exact isLiteral.elim

theorem isLiteral_of_literal? (read : kind.read? text = some value)
    (known : Constraint.literal? value = some literal) :
    kind.IsLiteral literal ∧ kind.read? literal = some value := by
  cases kind with
  | string | any =>
      cases read
      cases known
      exact ⟨trivial, rfl⟩
  | boolean =>
      rw [read?, Option.map_eq_some_iff] at read
      rcases read with ⟨answer, -, rfl⟩
      have written : writeBoolean answer = literal := Option.some.inj known
      rw [← written, read?_writeBoolean]
      exact ⟨by cases answer <;> simp [IsLiteral, writeBoolean], rfl⟩
  | integer | long =>
      rw [read?] at read
      rcases literal?_of_readIntWithin? (by decide) (by decide) read with
        ⟨number, written, again, -⟩
      rw [← Option.some.inj (written.symm.trans known)]
      exact ⟨Decimal.isPlain_writeInt number, again⟩
  | double =>
      rw [read?, Option.map_eq_some_iff] at read
      rcases read with ⟨number, real, rfl⟩
      cases known
      refine ⟨⟨number, rfl⟩, ?_⟩
      rw [read?_write]
      split
      next notANumber => rw [Decimal.eq_nan_of_readReal? real notANumber]
      next => rfl
  | date =>
      rw [read?, Option.map_eq_some_iff] at read
      rcases read with ⟨_, -, rfl⟩
      cases known
  | binary =>
      cases read
      cases known

end PrimitiveKind
end DocumentTypes
