import DocumentTypes.Number.Shortest
import Mathlib.Tactic.Linarith
import Mathlib.Tactic.Ring

/-! # Rounding to doubles

A fraction is rounded in the binade of its own size. Whatever lies in the interval of a double is
rounded to it: in the middle of the binade because its significand is the nearest, and just below
a power of two, where the binade before has the finer grid, because a carry leads up to it. -/

namespace DocumentTypes.Binary64

variable {number : Binary64} {numerator denominator nearest exponent unit : Nat}

/-! ## Fields -/

theorem fraction_lt (number : Binary64) : number.fraction < 2 ^ 52 :=
  Nat.mod_lt _ (Nat.two_pow_pos 52)

theorem exponentField_lt (number : Binary64) : number.exponentField < 2 ^ 11 :=
  Nat.mod_lt _ (Nat.two_pow_pos 11)

theorem significand_lt (number : Binary64) : number.significand < 2 ^ 53 := by
  have small := number.fraction_lt
  unfold significand
  simp only [Nat.pow_eq]
  split <;> omega

theorem unitExponent_significand (number : Binary64) :
    number.unitExponent * 2 ^ 52 + number.significand =
      number.exponentField * 2 ^ 52 + number.fraction := by
  unfold unitExponent significand
  simp only [Nat.pow_eq]
  split <;> omega

theorem ofWord_fields (number : Binary64) :
    ofWord number.isNegative (number.unitExponent * 2 ^ 52 + number.significand) = number := by
  rw [unitExponent_significand]
  have small : number.word < 2 ^ 64 := number.bits.toNat_lt
  have whole : (if number.isNegative then
      Nat.pow 2 63 + (number.exponentField * 2 ^ 52 + number.fraction)
      else number.exponentField * 2 ^ 52 + number.fraction) = number.word := by
    unfold isNegative exponentField fraction
    simp only [Nat.pow_eq, decide_eq_true_eq]
    split <;> omega
  rw [ofWord, whole]
  exact congrArg Binary64.mk UInt64.ofNat_toNat

theorem lt_infinityWord (finite : number.isFinite = true) :
    number.unitExponent * 2 ^ 52 + number.significand < infinityWord := by
  have different : number.exponentField ≠ 2047 := by simpa [isFinite] using finite
  have exponentSmall := number.exponentField_lt
  have fractionSmall := number.fraction_lt
  rw [unitExponent_significand, infinityWord]
  simp only [Nat.pow_eq]
  omega

/-! ## Halves -/

theorem roundHalfEven_eq (positive : 0 < denominator)
    (lower : 2 * (denominator * nearest) ≤ 2 * numerator + denominator)
    (upper : 2 * numerator ≤ 2 * (denominator * nearest) + denominator)
    (tie : nearest % 2 = 1 → 2 * (denominator * nearest) < 2 * numerator + denominator ∧
      2 * numerator < 2 * (denominator * nearest) + denominator) :
    roundHalfEven numerator denominator = nearest := by
  have divided := Nat.div_add_mod numerator denominator
  have remainder := Nat.mod_lt numerator positive
  have atMost : numerator / denominator ≤ nearest := by
    rw [← Nat.lt_add_one_iff, Nat.div_lt_iff_lt_mul positive, Nat.mul_comm, Nat.mul_add_one]
    omega
  have atLeast : nearest ≤ numerator / denominator + 1 := by
    cases nearest with
    | zero => exact Nat.zero_le _
    | succ less =>
        rw [Nat.mul_add_one] at lower
        refine Nat.succ_le_succ ((Nat.le_div_iff_mul_le positive).mpr ?_)
        rw [Nat.mul_comm]
        omega
  unfold roundHalfEven
  dsimp only
  rcases Nat.lt_or_ge (numerator / denominator) nearest with below | above
  · have next : nearest = numerator / denominator + 1 := by omega
    rw [next, Nat.mul_add_one] at lower upper tie
    split
    · omega
    · split <;> omega
  · have same : nearest = numerator / denominator := by omega
    rw [same] at lower upper tie
    split
    · omega
    · split <;> omega

/-! ## Binades -/

theorem binade_eq (positive : 0 < denominator) (unit_eq : denominator * 2 ^ exponent = unit)
    (upper : numerator < unit * 2 ^ 53) (lower : exponent = 0 ∨ unit * 2 ^ 52 ≤ numerator) :
    (numerator / denominator).log2 - 52 = exponent := by
  have small : numerator / denominator < 2 ^ (exponent + 53) := by
    rwa [Nat.div_lt_iff_lt_mul positive, Nat.mul_comm, Nat.pow_add, ← Nat.mul_assoc, unit_eq]
  rcases lower with rfl | lower
  · by_cases none : numerator / denominator = 0
    · rw [none, Nat.log2_zero]
    · have digits := (Nat.log2_lt none).mpr small
      omega
  · have great : 2 ^ (exponent + 52) ≤ numerator / denominator := by
      rwa [Nat.le_div_iff_mul_le positive, Nat.mul_comm, Nat.pow_add, ← Nat.mul_assoc, unit_eq]
    have given : numerator / denominator ≠ 0 :=
      Nat.ne_of_gt (Nat.lt_of_lt_of_le (Nat.two_pow_pos _) great)
    have most := (Nat.log2_lt given).mpr small
    have least := (Nat.le_log2 given).mpr great
    omega

theorem roundMagnitude_eq (unit_eq : denominator * 2 ^ exponent = unit)
    (binade : (numerator / denominator).log2 - 52 = exponent)
    (rounded : roundHalfEven numerator unit = nearest)
    (bounded : exponent * 2 ^ 52 + nearest ≤ infinityWord) :
    roundMagnitude numerator denominator = exponent * 2 ^ 52 + nearest := by
  unfold roundMagnitude
  simp only [Nat.pow_eq]
  rw [binade, unit_eq, rounded, Nat.min_eq_right bounded]

/-! ## Intervals -/

/-- The double is a power of two, with a finer grid below it. -/
def OpensBinade (number : Binary64) : Prop := number.fraction = 0 ∧ 1 < number.exponentField

instance (number : Binary64) : Decidable number.OpensBinade := inferInstanceAs (Decidable (_ ∧ _))

theorem OpensBinade.fields (opens : number.OpensBinade) :
    number.significand = 2 ^ 52 ∧ ∃ less, number.unitExponent = less + 1 := by
  rcases opens with ⟨fraction, exponentField⟩
  have normal : number.exponentField ≠ 0 := by omega
  refine ⟨?_, number.exponentField - 2, ?_⟩
  · rw [significand, if_neg normal, fraction, Nat.pow_eq, Nat.add_zero]
  · rw [unitExponent]
    omega

theorem significand_of_not_opensBinade (inside : ¬number.OpensBinade) :
    number.unitExponent = 0 ∨ 2 ^ 52 + 1 ≤ number.significand := by
  unfold OpensBinade at inside
  unfold unitExponent significand
  simp only [Nat.pow_eq]
  split <;> omega

/-- How far below a double its interval reaches, told by the unit of the double and times four:
half a unit, or a quarter where the grid is finer. -/
def reachBelow (number : Binary64) (unit : Nat) : Nat :=
  if number.OpensBinade then unit else 2 * unit

theorem reachBelow_le (number : Binary64) (unit : Nat) : number.reachBelow unit ≤ 2 * unit := by
  unfold reachBelow
  split <;> omega

theorem interval_eq (number : Binary64) : Shortest.interval number = {
    low := 4 * number.magnitude - number.reachBelow (2 ^ number.unitExponent)
    center := 4 * number.magnitude
    high := 4 * number.magnitude + 2 * 2 ^ number.unitExponent
    closed := number.significand % 2 == 0 } := by
  simp only [Shortest.interval, reachBelow, OpensBinade, Bool.and_eq_true, decide_eq_true_eq]
  rfl

theorem bounds_of_contains (unit_eq : denominator * 2 ^ number.unitExponent = unit)
    (inside : (Shortest.interval number).contains denominator (4 * numerator) = true) :
    (4 * (unit * number.significand) ≤ 4 * numerator + number.reachBelow unit ∧
      4 * numerator ≤ 4 * (unit * number.significand) + 2 * unit) ∧
    (number.significand % 2 = 1 →
      4 * (unit * number.significand) < 4 * numerator + number.reachBelow unit ∧
      4 * numerator < 4 * (unit * number.significand) + 2 * unit) := by
  subst unit_eq
  have center : 4 * number.magnitude * denominator =
      4 * (denominator * 2 ^ number.unitExponent * number.significand) := by
    rw [magnitude, Nat.pow_eq]
    ring
  have above : 2 * 2 ^ number.unitExponent * denominator =
      2 * (denominator * 2 ^ number.unitExponent) := by ring
  have below : number.reachBelow (2 ^ number.unitExponent) * denominator =
      number.reachBelow (denominator * 2 ^ number.unitExponent) := by
    unfold reachBelow
    split <;> ring
  unfold Shortest.Interval.contains at inside
  simp only [interval_eq, Nat.sub_mul, Nat.add_mul, center, above, below] at inside
  split at inside
  next even =>
    simp only [Bool.and_eq_true, decide_eq_true_eq, beq_iff_eq] at inside even
    omega
  next =>
    simp only [Bool.and_eq_true, decide_eq_true_eq] at inside
    omega

theorem roundMagnitude_of_opensBinade (finite : number.isFinite = true)
    (positive : 0 < denominator) (opens : number.OpensBinade)
    (unit_eq : denominator * 2 ^ number.unitExponent = unit) (less : numerator < unit * 2 ^ 52)
    (lower : 4 * (unit * number.significand) ≤ 4 * numerator + number.reachBelow unit) :
    roundMagnitude numerator denominator = number.unitExponent * 2 ^ 52 + number.significand := by
  rcases opens.fields with ⟨first, exponent, unitExponent⟩
  have word : number.unitExponent * 2 ^ 52 + number.significand = exponent * 2 ^ 52 + 2 ^ 53 := by
    omega
  rcases (⟨_, rfl⟩ : ∃ half, denominator * 2 ^ exponent = half) with ⟨half, half_eq⟩
  have positiveHalf : 0 < half := half_eq ▸ Nat.mul_pos positive (Nat.two_pow_pos exponent)
  have halved : unit = half * 2 := by
    rw [← unit_eq, unitExponent, Nat.pow_succ, ← Nat.mul_assoc, half_eq]
  rw [reachBelow, if_pos opens, first] at lower
  have binade : (numerator / denominator).log2 - 52 = exponent :=
    binade_eq positive half_eq (by linarith) (.inr (by linarith))
  have rounded : roundHalfEven numerator half = 2 ^ 53 :=
    roundHalfEven_eq positiveHalf (by linarith) (by linarith)
      fun odd => absurd odd (by decide)
  rw [word]
  exact roundMagnitude_eq half_eq binade rounded (word ▸ Nat.le_of_lt (lt_infinityWord finite))

/-- Whatever lies in the interval of a double is rounded to it. -/
theorem roundMagnitude_of_contains (finite : number.isFinite = true) (positive : 0 < denominator)
    (inside : (Shortest.interval number).contains denominator (4 * numerator) = true) :
    roundMagnitude numerator denominator = number.unitExponent * 2 ^ 52 + number.significand := by
  rcases (⟨_, rfl⟩ : ∃ unit, denominator * 2 ^ number.unitExponent = unit) with ⟨unit, unit_eq⟩
  rcases bounds_of_contains unit_eq inside with ⟨⟨lower, upper⟩, strict⟩
  by_cases below : number.OpensBinade ∧ numerator < unit * 2 ^ 52
  · exact roundMagnitude_of_opensBinade finite positive below.1 unit_eq below.2 lower
  · have reach := number.reachBelow_le unit
    have room : unit * (number.significand + 1) ≤ unit * 2 ^ 53 :=
      Nat.mul_le_mul_left _ number.significand_lt
    rw [Nat.mul_add_one] at room
    have positiveUnit : 0 < unit :=
      unit_eq ▸ Nat.mul_pos positive (Nat.two_pow_pos number.unitExponent)
    have least : number.unitExponent = 0 ∨ unit * 2 ^ 52 ≤ numerator := by
      by_cases opens : number.OpensBinade
      · exact .inr (Nat.le_of_not_lt fun less => below ⟨opens, less⟩)
      · refine (significand_of_not_opensBinade opens).imp_right fun great => ?_
        have scaled := Nat.mul_le_mul_left unit great
        rw [Nat.mul_add_one] at scaled
        linarith
    have binade : (numerator / denominator).log2 - 52 = number.unitExponent :=
      binade_eq positive unit_eq (by omega) least
    have rounded : roundHalfEven numerator unit = number.significand := by
      refine roundHalfEven_eq positiveUnit (by omega) (by omega) fun odd => ?_
      have strict := strict odd
      omega
    exact roundMagnitude_eq unit_eq binade rounded (Nat.le_of_lt (lt_infinityWord finite))

/-- A fraction in the interval of a double becomes that double with its sign. -/
theorem ofFraction_of_contains (finite : number.isFinite = true) (positive : 0 < denominator)
    (inside : (Shortest.interval number).contains denominator (numerator * Shortest.one) = true) :
    ofFraction number.isNegative numerator denominator = number := by
  have quarters {least : Nat} (one_eq : Shortest.one = 4 * least) :
      numerator * Shortest.one = 4 * (numerator * least) := by
    rw [one_eq, Nat.mul_left_comm]
  have one_eq : Shortest.one = 4 * Nat.pow 2 1074 := by decide +kernel
  rw [quarters one_eq] at inside
  rw [ofFraction, roundMagnitude_of_contains finite positive inside, ofWord_fields]

end DocumentTypes.Binary64
