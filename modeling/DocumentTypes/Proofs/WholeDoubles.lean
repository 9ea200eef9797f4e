import DocumentTypes.Proofs.Numerals
import Mathlib.Algebra.Order.Field.Rat
import Mathlib.Tactic.FieldSimp

/-! # Whole doubles

A finite double stands for a rational number, and it becomes a whole number of a primitive only if
it is whole itself. An integer is then the very number; a long is the number that fits in 64 bits
next to it, so that doubles beyond the range become the ends of it. -/

namespace DocumentTypes

/-! ## Values of doubles -/

namespace Binary64

variable {number : Binary64} {whole : Int}

def value (number : Binary64) : ℚ := number.scaled / 2 ^ 1074

theorem value_eq_intCast_iff : number.value = whole ↔ number.scaled = whole * Int.pow 2 1074 := by
  have divided (exponent : Nat) : (number.scaled : ℚ) / 2 ^ exponent = whole ↔
      number.scaled = whole * Int.pow 2 exponent := by
    rw [div_eq_iff (pow_ne_zero _ two_ne_zero), Int.pow_eq]
    exact_mod_cast Iff.rfl
  exact divided 1074

theorem toInt?_eq_some_iff :
    number.toInt? = some whole ↔ number.isFinite = true ∧ number.value = whole := by
  have positive : 0 < Int.pow 2 1074 := by decide +kernel
  rcases (⟨_, rfl⟩ : ∃ unit, Int.pow 2 1074 = unit) with ⟨unit, unit_eq⟩
  rw [value_eq_intCast_iff, toInt?, unit_eq]
  rw [unit_eq] at positive
  by_cases finite : number.isFinite = true
  · simp only [finite, Bool.true_and, beq_iff_eq, true_and]
    constructor
    · intro found
      split at found
      next divides =>
        rw [← Option.some.inj found, Int.ediv_mul_cancel (Int.dvd_of_emod_eq_zero divides)]
      next => cases found
    · intro multiple
      rw [multiple, Int.mul_emod_left, if_pos rfl, Int.mul_ediv_cancel _ positive.ne']
  · simp [finite]

end Binary64

/-! ## Primitives -/

namespace PrimitiveKind

variable {kind : PrimitiveKind} {value converted : Value} {number : Binary64} {whole : Int64}

theorem toInt_clampToLong (exact : Int) :
    (clampToLong exact).toInt = max (-2 ^ 63) (min exact (2 ^ 63 - 1)) := by
  have low : leastLong = -2 ^ 63 := by decide
  have high : greatestLong = 2 ^ 63 - 1 := by decide
  rw [clampToLong, low, high, min_comm]
  exact Int64.toInt_ofInt_of_le (by omega) (by omega)

theorem convert_eq_ok_iff (given : value.isNull = false) :
    kind.convert value = .ok converted ↔ kind.convert? value = some converted := by
  unfold convert
  split
  · cases given
  · cases kind.convert? value <;> simp

theorem convert_of_convert?_none (given : value.isNull = false)
    (unfit : kind.convert? value = none) :
    kind.convert value = .error (.cannotConvert value.shape kind) := by
  unfold convert
  split
  · cases given
  · rw [unfit]

theorem convert?_integer_eq_some_iff : integer.convert? (.double number) = some (.long whole) ↔
    ∃ exact : Int, number.toInt? = some exact ∧ whole.toInt = exact ∧
      -2 ^ 31 ≤ exact ∧ exact ≤ 2 ^ 31 - 1 := by
  have low : leastInteger = -2 ^ 31 := by decide
  have high : greatestInteger = 2 ^ 31 - 1 := by decide
  have inRange : isInteger whole = true ↔ -2 ^ 31 ≤ whole.toInt ∧ whole.toInt ≤ 2 ^ 31 - 1 := by
    rw [isInteger, low, high, Bool.and_eq_true, decide_eq_true_eq, decide_eq_true_eq]
  rw [convert?, Option.bind_eq_bind, Option.bind_eq_some_iff]
  refine exists_congr fun exact => and_congr_right fun _ => ?_
  have clamped := toInt_clampToLong exact
  dsimp only
  constructor
  · intro answer
    split at answer
    next valid =>
      cases answer
      have range := inRange.mp valid
      omega
    next => cases answer
  · rintro ⟨same, range⟩
    have found : clampToLong exact = whole := Int64.toInt_inj.mp (by omega)
    rw [found, if_pos (inRange.mpr (same ▸ range))]

theorem convert?_long_eq_some_iff : long.convert? (.double number) = some (.long whole) ↔
    ∃ exact : Int, number.toInt? = some exact ∧
      whole.toInt = max (-2 ^ 63) (min exact (2 ^ 63 - 1)) := by
  rw [convert?, Option.map_eq_some_iff]
  refine exists_congr fun exact => and_congr_right fun _ => ?_
  rw [← toInt_clampToLong, Value.long.injEq, eq_comm, Int64.toInt_inj]

theorem eq_long_of_convert?_double (kind_eq : kind = integer ∨ kind = long)
    (answer : kind.convert? (.double number) = some converted) :
    ∃ whole, converted = .long whole := by
  rcases kind_eq with rfl | rfl
  · rcases Option.bind_eq_some_iff.mp answer with ⟨exact, -, rest⟩
    dsimp only at rest
    split at rest
    next => exact ⟨_, (Option.some.inj rest).symm⟩
    next => cases rest
  · rcases Option.map_eq_some_iff.mp answer with ⟨exact, -, rfl⟩
    exact ⟨_, rfl⟩

/-- An integer is made of just those finite doubles that are whole and in its range, and is the
same number then. A long is made of all finite doubles that are whole: of those in its range it is
the same number, and of others the end of the range next to them. All other doubles have the wrong
type. -/
theorem convert_double_whole (number : Binary64) :
    (∀ whole : Int64, integer.convert (.double number) = .ok (.long whole) ↔
      number.isFinite = true ∧ number.value = whole.toInt ∧
      -2 ^ 31 ≤ whole.toInt ∧ whole.toInt ≤ 2 ^ 31 - 1) ∧
    (∀ whole : Int64, long.convert (.double number) = .ok (.long whole) ↔
      ∃ exact : Int, number.isFinite = true ∧ number.value = exact ∧
        whole.toInt = max (-2 ^ 63) (min exact (2 ^ 63 - 1))) ∧
    ∀ kind, kind = integer ∨ kind = long →
      (∃ whole : Int64, kind.convert (.double number) = .ok (.long whole)) ∨
      kind.convert (.double number) = .error (.cannotConvert .double kind) := by
  refine ⟨fun whole => ?_, fun whole => ?_, fun kind kind_eq => ?_⟩
  · rw [convert_eq_ok_iff rfl, convert?_integer_eq_some_iff]
    simp only [Binary64.toInt?_eq_some_iff]
    constructor
    · rintro ⟨exact, ⟨finite, value⟩, rfl, range⟩
      exact ⟨finite, value, range⟩
    · rintro ⟨finite, value, range⟩
      exact ⟨_, ⟨finite, value⟩, rfl, range⟩
  · rw [convert_eq_ok_iff rfl, convert?_long_eq_some_iff]
    simp only [Binary64.toInt?_eq_some_iff, and_assoc]
  · cases answer : kind.convert? (.double number) with
    | none => exact .inr (convert_of_convert?_none rfl answer)
    | some converted =>
        rcases eq_long_of_convert?_double kind_eq answer with ⟨whole, rfl⟩
        exact .inl ⟨whole, (convert_eq_ok_iff rfl).mpr answer⟩

/-- The double `2^63` is whole, but no long is this number; it becomes the greatest long. -/
theorem convert_double_beyond_long :
    let number : Binary64 := ⟨0x43e0000000000000⟩
    number.isFinite = true ∧ number.value = (2 ^ 63 : Int) ∧
    long.convert (.double number) = .ok (.long 9223372036854775807) ∧
    number.value ≠ (9223372036854775807 : Int) := by
  intro number
  have finite : number.isFinite = true := by decide +kernel
  have value : number.value = (2 ^ 63 : Int) :=
    Binary64.value_eq_intCast_iff.mpr (by decide +kernel)
  refine ⟨finite, value, ?_, ?_⟩
  · rw [convert_eq_ok_iff rfl, convert?_long_eq_some_iff]
    exact ⟨2 ^ 63, Binary64.toInt?_eq_some_iff.mpr ⟨finite, value⟩, by decide⟩
  · rw [value]
    decide +kernel

end PrimitiveKind
end DocumentTypes
