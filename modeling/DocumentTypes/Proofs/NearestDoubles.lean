import DocumentTypes.Proofs.Rounding
import DocumentTypes.Proofs.WholeDoubles
import Mathlib.Algebra.Order.Group.Abs
import Mathlib.Tactic.Positivity

/-! # Nearest doubles

A magnitude is rounded to the nearest multiple of the unit of its binade. The doubles of the binade
are among these multiples, and those of smaller binades all lie on the other side of its first
double: so no double is nearer. -/

namespace DocumentTypes.Binary64

variable {number other : Binary64} {numerator denominator significand exponent : Nat}

/-! ## Multiples -/

theorem roundHalfEven_nearest (positive : 0 < denominator) (numerator multiple : Nat) :
    ((roundHalfEven numerator denominator * denominator : Nat) - numerator : Int).natAbs ≤
      ((multiple * denominator : Nat) - numerator : Int).natAbs := by
  have divided := Nat.div_add_mod' numerator denominator
  have remainder := Nat.mod_lt numerator positive
  have rounded : roundHalfEven numerator denominator = numerator / denominator ∧
        2 * (numerator % denominator) ≤ denominator ∨
      roundHalfEven numerator denominator = numerator / denominator + 1 ∧
        denominator ≤ 2 * (numerator % denominator) := by
    unfold roundHalfEven
    dsimp only
    split
    · omega
    · split <;> omega
  -- Whatever the multiple, it lies on one side of the number.
  have outside : multiple * denominator ≤ numerator / denominator * denominator ∨
      numerator / denominator * denominator + denominator ≤ multiple * denominator := by
    rcases Nat.lt_or_ge (numerator / denominator) multiple with above | below
    · refine .inr ?_
      rw [← Nat.succ_mul]
      exact Nat.mul_le_mul_right _ above
    · exact .inl (Nat.mul_le_mul_right _ below)
  rcases rounded with ⟨same, near⟩ | ⟨same, near⟩
  · rw [same]
    omega
  · rw [same, Nat.succ_mul]
    omega

theorem roundHalfEven_of_multiple {multiple : Nat} (positive : 0 < denominator)
    (divides : numerator = multiple * denominator) :
    roundHalfEven numerator denominator = multiple := by
  have nearest := roundHalfEven_nearest positive numerator multiple
  rw [← divides, Int.sub_self, Int.natAbs_zero, Nat.le_zero, Int.natAbs_eq_zero, Int.sub_eq_zero,
    Int.natCast_inj, divides] at nearest
  exact divides ▸ Nat.eq_of_mul_eq_mul_right positive nearest

/-! ## Encodings -/

/-- A significand and the exponent of its unit, as a double has them, or as they are when rounding
has carried the significand up to the next binade. -/
structure Encodable (significand exponent : Nat) : Prop where
  small : significand ≤ 2 ^ 53
  normal : exponent = 0 ∨ 2 ^ 52 ≤ significand
  bounded : exponent < 2045

theorem Encodable.word_lt (encodable : Encodable significand exponent) :
    exponent * 2 ^ 52 + significand < infinityWord := by
  have small := encodable.small
  have bounded := encodable.bounded
  rw [infinityWord]
  simp only [Nat.pow_eq]
  omega

theorem word_ofWord (negative : Bool) {word : Nat} (small : word < infinityWord) :
    (ofWord negative word).word = if negative then 2 ^ 63 + word else word := by
  have bound : infinityWord < 2 ^ 63 := by decide +kernel
  unfold ofWord Binary64.word
  rw [UInt64.toNat_ofNat']
  apply Nat.mod_eq_of_lt
  simp only [Nat.pow_eq]
  split <;> omega

theorem isNegative_ofWord (negative : Bool) {word : Nat} (small : word < infinityWord) :
    (ofWord negative word).isNegative = negative := by
  have bound : infinityWord < 2 ^ 63 := by decide +kernel
  rw [isNegative, word_ofWord negative small]
  simp only [Nat.pow_eq]
  cases negative with
  | true => simp
  | false =>
      simp
      omega

theorem exponentField_ofWord (negative : Bool) {word : Nat} (small : word < infinityWord) :
    (ofWord negative word).exponentField = word / 2 ^ 52 := by
  have bound : infinityWord = 2047 * 2 ^ 52 := by decide +kernel
  rw [exponentField, word_ofWord negative small]
  simp only [Nat.pow_eq]
  split <;> omega

theorem fraction_ofWord (negative : Bool) {word : Nat} (small : word < infinityWord) :
    (ofWord negative word).fraction = word % 2 ^ 52 := by
  rw [fraction, word_ofWord negative small]
  simp only [Nat.pow_eq]
  split <;> omega

theorem isFinite_ofWord (negative : Bool) {word : Nat} (small : word < infinityWord) :
    (ofWord negative word).isFinite = true := by
  have bound : infinityWord = 2047 * 2 ^ 52 := by decide +kernel
  rw [isFinite, exponentField_ofWord negative small, bne_iff_ne]
  omega

theorem magnitude_ofWord (negative : Bool) (encodable : Encodable significand exponent) :
    (ofWord negative (exponent * 2 ^ 52 + significand)).magnitude = significand * 2 ^ exponent := by
  have field := exponentField_ofWord negative encodable.word_lt
  have rest := fraction_ofWord negative encodable.word_lt
  have small := encodable.small
  rw [magnitude, Binary64.significand, unitExponent, field, rest, Nat.pow_eq, Nat.pow_eq]
  rcases Nat.lt_or_ge significand (2 ^ 52) with subnormal | normal
  · rcases encodable.normal with rfl | great
    · rw [if_pos (by omega), Nat.zero_mul, Nat.zero_add, Nat.mod_eq_of_lt subnormal,
        Nat.div_eq_of_lt subnormal]
    · omega
  · rw [if_neg (by omega)]
    rcases Nat.lt_or_eq_of_le small with inside | carried
    · have sum : 2 ^ 52 + (exponent * 2 ^ 52 + significand) % 2 ^ 52 = significand := by omega
      have next : (exponent * 2 ^ 52 + significand) / 2 ^ 52 - 1 = exponent := by omega
      rw [sum, next]
    · have sum : 2 ^ 52 + (exponent * 2 ^ 52 + significand) % 2 ^ 52 = 2 ^ 52 := by omega
      have next : (exponent * 2 ^ 52 + significand) / 2 ^ 52 - 1 = exponent + 1 := by omega
      rw [sum, next, carried, ← Nat.pow_add, ← Nat.pow_add]
      congr 1
      omega

/-! ## Magnitudes -/

theorem roundHalfEven_bounds (numerator denominator : Nat) :
    numerator / denominator ≤ roundHalfEven numerator denominator ∧
      roundHalfEven numerator denominator ≤ numerator / denominator + 1 := by
  unfold roundHalfEven
  dsimp only
  split
  · omega
  · split <;> omega

/-- The exponent of the binade in which so many units are rounded. -/
def binade (units : Nat) : Nat := units.log2 - 52

theorem le_of_binade {units : Nat} (above : binade units ≠ 0) :
    2 ^ 52 * 2 ^ binade units ≤ units := by
  have nonzero : units ≠ 0 := by
    rintro rfl
    exact above rfl
  have size : 52 + binade units = units.log2 := by
    unfold binade at above ⊢
    omega
  rw [← Nat.pow_add, size]
  exact Nat.log2_self_le nonzero

theorem lt_of_binade (units : Nat) : units < 2 ^ 53 * 2 ^ binade units := by
  refine Nat.lt_of_lt_of_le Nat.lt_log2_self ?_
  rw [← Nat.pow_add]
  refine Nat.pow_le_pow_right (by decide) ?_
  unfold binade
  omega

def rounded (units : Nat) : Nat := roundHalfEven units (2 ^ binade units)

theorem encodable_rounded {units : Nat} (bounded : binade units < 2045) :
    Encodable (rounded units) (binade units) := by
  have bounds := roundHalfEven_bounds units (2 ^ binade units)
  have small : units / 2 ^ binade units < 2 ^ 53 :=
    (Nat.div_lt_iff_lt_mul (Nat.two_pow_pos _)).mpr (lt_of_binade units)
  refine ⟨?_, ?_, bounded⟩
  · unfold rounded
    omega
  · refine or_iff_not_imp_left.mpr fun above => ?_
    have great := (Nat.le_div_iff_mul_le (Nat.two_pow_pos _)).mpr (le_of_binade above)
    exact Nat.le_trans great bounds.1

theorem roundMagnitude_one {units : Nat} (bounded : binade units < 2045) :
    roundMagnitude units 1 = binade units * 2 ^ 52 + rounded units :=
  roundMagnitude_eq (Nat.one_mul _) (by rw [Nat.div_one, binade]) rfl
    (Nat.le_of_lt (encodable_rounded bounded).word_lt)

/-- No double is nearer to a magnitude than the one it is rounded to. -/
theorem rounded_nearest (units : Nat) (other : Binary64) :
    ((rounded units * 2 ^ binade units : Nat) - units : Int).natAbs ≤
      (other.magnitude - units : Int).natAbs := by
  have nearest (multiple : Nat) := roundHalfEven_nearest (Nat.two_pow_pos (binade units)) units multiple
  rcases Nat.lt_or_ge other.unitExponent (binade units) with finer | coarser
  · -- The other double lies below the binade, whose first double is one of the multiples.
    have first := nearest (2 ^ 52)
    have least : 2 ^ 52 * 2 ^ binade units ≤ units := le_of_binade (by omega)
    have below : other.magnitude ≤ 2 ^ 52 * 2 ^ binade units := by
      rw [magnitude, Nat.pow_eq]
      have step : 2 ^ (other.unitExponent + 1) ≤ 2 ^ binade units :=
        Nat.pow_le_pow_right (by decide) finer
      calc other.significand * 2 ^ other.unitExponent
          ≤ 2 ^ 53 * 2 ^ other.unitExponent :=
            Nat.mul_le_mul_right _ (Nat.le_of_lt other.significand_lt)
        _ = 2 ^ 52 * 2 ^ (other.unitExponent + 1) := by rw [Nat.pow_succ]; omega
        _ ≤ 2 ^ 52 * 2 ^ binade units := Nat.mul_le_mul_left _ step
    unfold rounded
    omega
  · have multiple : other.magnitude =
        other.significand * 2 ^ (other.unitExponent - binade units) * 2 ^ binade units := by
      rw [magnitude, Nat.pow_eq, Nat.mul_assoc, ← Nat.pow_add, Nat.sub_add_cancel coarser]
    rw [multiple]
    exact nearest _

/-! ## Integers -/

theorem binade_mul_pow_le {count size : Nat} (small : count < 2 ^ size) (exponent : Nat) :
    binade (count * Nat.pow 2 exponent) ≤ size + exponent - 53 := by
  by_cases none : count * Nat.pow 2 exponent = 0
  · rw [binade, none, Nat.log2_zero]
    omega
  · have less : count * Nat.pow 2 exponent < 2 ^ (size + exponent) := by
      rw [Nat.pow_eq, Nat.pow_add]
      exact Nat.mul_lt_mul_of_pos_right small (Nat.two_pow_pos _)
    have digits := (Nat.log2_lt none).mpr less
    unfold binade
    omega

theorem exists_multiple {count : Nat} (small : count ≤ 2 ^ 53) (exponent : Nat) :
    ∃ multiple, count * Nat.pow 2 exponent =
      multiple * 2 ^ binade (count * Nat.pow 2 exponent) := by
  rcases Nat.lt_or_eq_of_le small with less | rfl
  · have finer := binade_mul_pow_le less exponent
    refine ⟨count * 2 ^ (exponent - binade (count * Nat.pow 2 exponent)), ?_⟩
    rw [Nat.mul_assoc, ← Nat.pow_add, Nat.sub_add_cancel (by omega), Nat.pow_eq]
  · have log : (2 ^ 53 * Nat.pow 2 exponent).log2 = 53 + exponent := by
      rw [Nat.pow_eq, ← Nat.pow_add, Nat.log2_two_pow]
    have coarser : binade (2 ^ 53 * Nat.pow 2 exponent) = exponent + 1 := by
      rw [binade, log]
      omega
    exact ⟨2 ^ 52, by rw [coarser, Nat.pow_eq, Nat.pow_succ]; omega⟩

section Integers

variable {integer : Int}

/-- An integer, in the units in which magnitudes are counted. -/
def units (integer : Int) : Nat := integer.natAbs * Nat.pow 2 1074

theorem ofInt_eq (bounded : binade (units integer) < 2045) :
    ofInt integer = ofWord (integer < 0)
      (binade (units integer) * 2 ^ 52 + rounded (units integer)) := by
  rw [ofInt, ofFraction, ← roundMagnitude_one bounded]
  rfl

theorem binade_units_lt (low : -2 ^ 63 ≤ integer) (high : integer ≤ 2 ^ 63) :
    binade (units integer) < 2045 := by
  have small : integer.natAbs < 2 ^ 64 := by omega
  unfold units
  generalize exponent_eq : 1074 = exponent
  have bounded := binade_mul_pow_le small exponent
  omega

theorem isFinite_ofInt (bounded : binade (units integer) < 2045) :
    (ofInt integer).isFinite = true := by
  rw [ofInt_eq bounded]
  exact isFinite_ofWord _ (encodable_rounded bounded).word_lt

theorem scaled_ofInt (bounded : binade (units integer) < 2045) : (ofInt integer).scaled =
    if integer < 0 then -((rounded (units integer) * 2 ^ binade (units integer) : Nat) : Int)
    else (rounded (units integer) * 2 ^ binade (units integer) : Nat) := by
  have encodable := encodable_rounded bounded
  rw [ofInt_eq bounded, scaled, isNegative_ofWord _ encodable.word_lt, magnitude_ofWord _ encodable]
  simp only [decide_eq_true_eq]

theorem natAbs_scaled (number : Binary64) : number.scaled.natAbs = number.magnitude := by
  unfold scaled
  split <;> omega

/-- The integer that a double would have to be in the units of magnitudes, were it the given
one. -/
def target (integer : Int) : Int := integer * Int.pow 2 1074

theorem target_eq (integer : Int) : target integer =
    if integer < 0 then -(units integer : Int) else units integer := by
  have unit : Int.pow 2 1074 = (Nat.pow 2 1074 : Nat) := by decide +kernel
  rw [target, units, unit]
  split
  next negative =>
    rw [Int.natCast_mul, ← Int.neg_mul]
    congr 1
    omega
  next positive =>
    rw [Int.natCast_mul]
    congr 1
    omega

theorem scaled_nearest (bounded : binade (units integer) < 2045) (other : Binary64) :
    ((ofInt integer).scaled - target integer).natAbs ≤ (other.scaled - target integer).natAbs := by
  have nearest := rounded_nearest (units integer) other
  rw [← natAbs_scaled other] at nearest
  rw [scaled_ofInt bounded, target_eq]
  split
  · omega
  · omega

theorem scaled_ofInt_of_small (low : -2 ^ 53 ≤ integer) (high : integer ≤ 2 ^ 53) :
    (ofInt integer).scaled = target integer := by
  have bounded : binade (units integer) < 2045 := binade_units_lt (by omega) (by omega)
  have small : integer.natAbs ≤ 2 ^ 53 := by omega
  have divides : ∃ multiple, units integer = multiple * 2 ^ binade (units integer) := by
    unfold units
    generalize 1074 = exponent
    exact exists_multiple small exponent
  rcases divides with ⟨multiple, divides⟩
  have same : rounded (units integer) = multiple :=
    roundHalfEven_of_multiple (Nat.two_pow_pos _) divides
  rw [scaled_ofInt bounded, target_eq, same, ← divides]

end Integers

/-! ## Values -/

theorem value_sub (number : Binary64) (integer : Int) :
    |number.value - integer| = (number.scaled - target integer).natAbs / 2 ^ 1074 := by
  have divided (exponent : Nat) : |(number.scaled : ℚ) / 2 ^ exponent - integer| =
      (number.scaled - integer * Int.pow 2 exponent).natAbs / 2 ^ exponent := by
    have positive : (0 : ℚ) < 2 ^ exponent := by positivity
    have joined : (number.scaled : ℚ) / 2 ^ exponent - integer =
        (number.scaled - integer * Int.pow 2 exponent : Int) / 2 ^ exponent := by
      rw [Int.pow_eq]
      push_cast
      field_simp
    rw [joined, abs_div, abs_of_pos positive, Nat.cast_natAbs, Int.cast_abs]
  exact divided 1074

theorem value_nearest {integer : Int} (low : -2 ^ 63 ≤ integer) (high : integer ≤ 2 ^ 63)
    (other : Binary64) : |(ofInt integer).value - integer| ≤ |other.value - integer| := by
  rw [value_sub, value_sub]
  exact div_le_div_of_nonneg_right
    (Nat.cast_le.mpr (scaled_nearest (binade_units_lt low high) other)) (by positivity)

theorem value_ofInt_of_small {integer : Int} (low : -2 ^ 53 ≤ integer) (high : integer ≤ 2 ^ 53) :
    (ofInt integer).value = integer :=
  value_eq_intCast_iff.mpr (scaled_ofInt_of_small low high)

/-! ## Order -/

variable {left right : Binary64}

theorem isNaN_of_isFinite (finite : number.isFinite = true) : number.isNaN = false := by
  have inside : number.exponentField ≠ 2047 := by simpa [isFinite] using finite
  simp [isNaN, inside]

theorem lessThan_iff (leftFinite : left.isFinite = true) (rightFinite : right.isFinite = true) :
    left.lessThan right = true ↔ left.value < right.value := by
  have positive : (0 : ℚ) < 2 ^ 1074 := by positivity
  rw [lessThan, isNaN_of_isFinite leftFinite, isNaN_of_isFinite rightFinite, value, value,
    div_lt_div_iff_of_pos_right positive, Int.cast_lt]
  simp

theorem atMost_iff (leftFinite : left.isFinite = true) (rightFinite : right.isFinite = true) :
    left.atMost right = true ↔ left.value ≤ right.value := by
  have positive : (0 : ℚ) < 2 ^ 1074 := by positivity
  rw [atMost, isNaN_of_isFinite leftFinite, isNaN_of_isFinite rightFinite, value, value,
    div_le_div_iff_of_pos_right positive, Int.cast_le]
  simp

end DocumentTypes.Binary64
