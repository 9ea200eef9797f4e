import DocumentTypes.Proofs.Rounding

/-! # Shortest digits

The decimal that is found for a double lies in its interval. Some decimal always does: with
seventeen digits the grid is finer than the interval is wide, so that one of the two points beside
the center is inside. -/

namespace DocumentTypes.Shortest

variable {range : Interval} {decimal : Significant} {tie : Tie} {number : Binary64}
  {magnitude : Nat} {exponent leading : Int}

theorem one_pos : 0 < one := by decide +kernel

/-! ## Decimals as fractions -/

namespace Significant

def numerator (decimal : Significant) : Nat := decimal.digits * 10 ^ decimal.exponent.toNat

def denominator (decimal : Significant) : Nat := 10 ^ (-decimal.exponent).toNat

theorem denominator_pos (decimal : Significant) : 0 < decimal.denominator :=
  Nat.pow_pos (by decide)

def Within (decimal : Significant) (range : Interval) : Prop :=
  range.contains decimal.denominator (decimal.numerator * one) = true

theorem Within.bounds (within : decimal.Within range) :
    range.low * decimal.denominator ≤ decimal.numerator * one ∧
      decimal.numerator * one ≤ range.high * decimal.denominator := by
  unfold Within Interval.contains at within
  split at within
  all_goals
    simp only [Bool.and_eq_true, decide_eq_true_eq] at within
    omega

end Significant

theorem Interval.contains_mul {factor : Nat} (positive : 0 < factor) (range : Interval)
    (scale point : Nat) :
    range.contains (factor * scale) (factor * point) = range.contains scale point := by
  unfold contains
  simp only [Nat.mul_left_comm _ factor, Nat.mul_le_mul_left_iff positive,
    Nat.mul_lt_mul_left positive]

theorem Significant.within_carry (digits : Nat) (exponent : Int) (range : Interval) :
    Within ⟨10 * digits, exponent⟩ range ↔ Within ⟨digits, exponent + 1⟩ range := by
  unfold Within numerator denominator
  rcases lt_or_ge exponent 0 with negative | positive
  · have numerator : exponent.toNat = 0 ∧ (exponent + 1).toNat = 0 := by omega
    have denominator : (-exponent).toNat = (-(exponent + 1)).toNat + 1 := by omega
    rw [numerator.1, numerator.2, denominator, Nat.pow_succ', Nat.mul_assoc, Nat.mul_assoc,
      Interval.contains_mul (by decide), Nat.mul_assoc]
  · have numerator : (exponent + 1).toNat = exponent.toNat + 1 := by omega
    have denominator : (-(exponent + 1)).toNat = (-exponent).toNat := by omega
    rw [numerator, denominator, Nat.pow_succ', Nat.mul_left_comm digits, Nat.mul_assoc 10]

theorem Significant.Within.strip (fuel : Nat) (within : decimal.Within range) :
    (decimal.strip fuel).Within range := by
  induction fuel generalizing decimal with
  | zero => exact within
  | succ fuel induction =>
      rw [Significant.strip]
      split
      next trailing =>
        refine induction ((within_carry _ _ range).mp ?_)
        simp only [Bool.and_eq_true, decide_eq_true_eq] at trailing
        rwa [Nat.mul_div_cancel' (Nat.dvd_of_mod_eq_zero trailing.1)]
      next => exact within

/-! ## One grid -/

theorem scale_eq (exponent : Int) :
    (if exponent < 0 then Nat.pow 10 exponent.natAbs else 1) = 10 ^ (-exponent).toNat := by
  split
  next negative =>
    have size : exponent.natAbs = (-exponent).toNat := by omega
    rw [size, Nat.pow_eq]
  next positive =>
    have size : (-exponent).toNat = 0 := by omega
    rw [size, Nat.pow_zero]

theorem step_eq (exponent : Int) :
    (if exponent < 0 then one else one * Nat.pow 10 exponent.natAbs) =
      one * 10 ^ exponent.toNat := by
  split
  next negative =>
    have size : exponent.toNat = 0 := by omega
    rw [size, Nat.pow_zero, Nat.mul_one]
  next positive =>
    have size : exponent.natAbs = exponent.toNat := by omega
    rw [size, Nat.pow_eq]

theorem Significant.within_of_contains {digits : Nat}
    (inside : range.contains (10 ^ (-exponent).toNat)
      (digits * (one * 10 ^ exponent.toNat)) = true) :
    Within ⟨digits, exponent⟩ range := by
  unfold Within numerator denominator
  rwa [Nat.mul_assoc, Nat.mul_comm _ one]

theorem within_of_onGrid? (found : onGrid? tie range exponent = some decimal) :
    decimal.Within range := by
  unfold onGrid? at found
  simp only [scale_eq, step_eq] at found
  split at found
  next lower upper =>
    rw [← Option.some.inj found]
    split
    · exact Significant.within_of_contains upper
    · exact Significant.within_of_contains lower
  next lower _ =>
    rw [← Option.some.inj found]
    exact Significant.within_of_contains lower
  next _ upper =>
    rw [← Option.some.inj found]
    exact Significant.within_of_contains upper
  next => cases found

theorem Interval.contains_of_close {scale lower upper : Nat} (positive : 0 < scale)
    (below : range.low < range.center) (above : range.center < range.high)
    (least : lower ≤ range.center * scale) (greatest : range.center * scale < upper)
    (close : upper + range.low * scale < lower + range.high * scale) :
    range.contains scale lower = true ∨ range.contains scale upper = true := by
  have below := Nat.mul_lt_mul_of_pos_right below positive
  have above := Nat.mul_lt_mul_of_pos_right above positive
  unfold contains
  split
  all_goals
    simp only [Bool.and_eq_true, decide_eq_true_eq]
    omega

theorem exists_onGrid (tie : Tie) (below : range.low < range.center)
    (above : range.center < range.high)
    (fine : one * 10 ^ exponent.toNat + range.low * 10 ^ (-exponent).toNat <
      range.high * 10 ^ (-exponent).toNat) :
    (onGrid? tie range exponent).isSome = true := by
  have positive : 0 < one * 10 ^ exponent.toNat :=
    Nat.mul_pos one_pos (Nat.pow_pos (by decide))
  have least := Nat.div_mul_le_self (range.center * 10 ^ (-exponent).toNat)
    (one * 10 ^ exponent.toNat)
  have greatest := Nat.lt_mul_of_div_lt (Nat.lt_succ_self (range.center * 10 ^ (-exponent).toNat /
    (one * 10 ^ exponent.toNat))) positive
  unfold onGrid?
  simp only [scale_eq, step_eq]
  have inside := Interval.contains_of_close (Nat.pow_pos (by decide)) below above least greatest
    (by rw [Nat.succ_mul]; omega)
  split
  next => rfl
  next => rfl
  next => rfl
  next notLower notUpper =>
    rcases inside with lower | upper
    · rw [notLower] at lower
      cases lower
    · rw [notUpper] at upper
      cases upper

/-! ## The leading digit -/

theorem lt_pow_length_toDigits (count : Nat) : count < 10 ^ (Nat.toDigits 10 count).length :=
  (Nat.length_toDigits_le_iff (by decide) Nat.length_toDigits_pos).mp (Nat.le_refl _)

theorem pow_length_toDigits_le {count : Nat} (positive : 0 < count) :
    10 ^ ((Nat.toDigits 10 count).length - 1) ≤ count := by
  by_cases single : (Nat.toDigits 10 count).length = 1
  · rwa [single]
  · have length := Nat.length_toDigits_pos (b := 10) (n := count)
    rw [← Nat.not_lt, ← Nat.length_toDigits_le_iff (by decide) (by omega)]
    omega

theorem mul_pow_le_of_balanced {left right first second third fourth : Nat}
    (bound : left * 10 ^ first ≤ right * 10 ^ second)
    (balanced : third + second = first + fourth) : left * 10 ^ third ≤ right * 10 ^ fourth := by
  refine Nat.le_of_mul_le_mul_right ?_ (Nat.pow_pos (by decide : 0 < 10) : 0 < 10 ^ second)
  calc left * 10 ^ third * 10 ^ second
      = left * 10 ^ first * 10 ^ fourth := by
        rw [Nat.mul_assoc, ← Nat.pow_add, balanced, Nat.pow_add, Nat.mul_assoc]
    _ ≤ right * 10 ^ second * 10 ^ fourth := Nat.mul_le_mul_right _ bound
    _ = right * 10 ^ fourth * 10 ^ second := Nat.mul_right_comm ..

/-- The leading digit of a magnitude is not above it. If the estimate is too great, one less is
small enough for the numbers of digits. -/
theorem leadingExponent_le (positive : 0 < magnitude) :
    one * 10 ^ (leadingExponent magnitude).toNat ≤
      magnitude * 10 ^ (-leadingExponent magnitude).toNat := by
  have few : one * 10 ^ ((Nat.toDigits 10 magnitude).length - 1) ≤
      magnitude * 10 ^ (Nat.toDigits 10 one).length := by
    rw [Nat.mul_comm magnitude]
    exact Nat.mul_le_mul (Nat.le_of_lt (lt_pow_length_toDigits one))
      (pow_length_toDigits_le positive)
  have given : 0 < (Nat.toDigits 10 magnitude).length := Nat.length_toDigits_pos
  unfold leadingExponent
  generalize (Nat.toDigits 10 one).length = ones at few
  dsimp only
  split
  next negative =>
    split
    next atLeast =>
      have sizes (estimate : Int) (negative : estimate < 0) :
          estimate.toNat = 0 ∧ (-estimate).toNat = estimate.natAbs := by omega
      rwa [(sizes _ negative).1, (sizes _ negative).2, Nat.pow_zero, Nat.mul_one]
    next => exact mul_pow_le_of_balanced few (by omega)
  next positive =>
    split
    next atLeast =>
      have sizes (estimate : Int) (positive : ¬estimate < 0) :
          (-estimate).toNat = 0 ∧ estimate.toNat = estimate.natAbs := by omega
      rwa [(sizes _ positive).1, (sizes _ positive).2, Nat.pow_zero, Nat.mul_one]
    next => exact mul_pow_le_of_balanced few (by omega)

theorem grid_le (bound : one * 10 ^ leading.toNat ≤ magnitude * 10 ^ (-leading).toNat)
    (places : Nat) :
    10 ^ places * (one * 10 ^ (leading - places).toNat) ≤
      magnitude * 10 ^ (-(leading - places)).toNat := by
  rw [Nat.mul_left_comm, ← Nat.pow_add]
  exact mul_pow_le_of_balanced bound (by omega)

/-! ## Seventeen digits -/

/-- The interval of a double encloses it, and it is wider than one in ten to the sixteenth of it. -/
theorem interval_wide (number : Binary64) (nonzero : number.magnitude ≠ 0) :
    (interval number).low < (interval number).center ∧
      (interval number).center < (interval number).high ∧
      0 < (interval number).low ∧
      (interval number).center + 10 ^ 16 * (interval number).low <
        10 ^ 16 * (interval number).high := by
  have unit_pos : 0 < 2 ^ number.unitExponent := Nat.two_pow_pos _
  have magnitude_eq : number.magnitude = number.significand * 2 ^ number.unitExponent := rfl
  have given : 0 < number.significand := by
    refine Nat.pos_of_ne_zero fun none => nonzero ?_
    rw [magnitude_eq, none, Nat.zero_mul]
  have atLeast : 2 ^ number.unitExponent ≤ number.magnitude := by
    rw [magnitude_eq]
    exact Nat.le_mul_of_pos_left _ given
  have small : number.magnitude < 2 ^ 53 * 2 ^ number.unitExponent := by
    rw [magnitude_eq]
    exact Nat.mul_lt_mul_of_pos_right number.significand_lt unit_pos
  rw [Binary64.interval_eq]
  dsimp only
  unfold Binary64.reachBelow
  split
  next opens =>
    have first : number.magnitude = 2 ^ 52 * 2 ^ number.unitExponent := by
      rw [magnitude_eq, opens.fields.1]
    generalize 2 ^ number.unitExponent = unit at *
    omega
  next =>
    generalize 2 ^ number.unitExponent = unit at *
    omega

/-- The digits that are found for a finite double other than zero lie in its interval. -/
theorem significant_within (tie : Tie) (nonzero : number.magnitude ≠ 0) :
    (significant tie number).Within (interval number) := by
  rcases interval_wide number nonzero with ⟨below, above, -, wide⟩
  have positive : 0 < (interval number).center := Nat.lt_of_le_of_lt (Nat.zero_le _) below
  rcases (⟨_, rfl⟩ : ∃ leading, leadingExponent (interval number).center = leading) with
    ⟨leading, leading_eq⟩
  have bound := leadingExponent_le positive
  rw [leading_eq] at bound
  have isSome : ((List.range 17).findSome? fun (places : Nat) =>
      onGrid? tie (interval number) (leading - (places : Int))).isSome = true := by
    refine List.findSome?_isSome_iff.mpr ⟨16, by decide, exists_onGrid tie below above ?_⟩
    have grid := grid_le bound 16
    have scaled := Nat.mul_lt_mul_of_pos_right wide
      (Nat.pow_pos (by decide : 0 < 10) : 0 < 10 ^ (-(leading - (16 : Nat))).toNat)
    rw [Nat.add_mul, Nat.mul_assoc, Nat.mul_assoc] at scaled
    omega
  rcases Option.isSome_iff_exists.mp isSome with ⟨found, search⟩
  rcases List.exists_of_findSome?_eq_some search with ⟨places, -, onGrid⟩
  unfold significant
  dsimp only
  rw [leading_eq, search]
  exact (within_of_onGrid? onGrid).strip 17

end DocumentTypes.Shortest
