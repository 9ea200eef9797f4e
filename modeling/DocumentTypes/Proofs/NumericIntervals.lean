import DocumentTypes.Constraint
import DocumentTypes.Proofs.NearestDoubles

/-! # Numeric intervals

An interval is checked in doubles. A double is compared exactly with the bounds, but a whole number
is rounded to a double before. Since no bound is nearer to the number than this double, rounding
never carries the number past a bound; it can only carry it onto one. -/

namespace DocumentTypes

namespace NumericInterval

variable {bounds : NumericInterval} {number bound : Binary64} {integer : Int}

def ends (bounds : NumericInterval) : List Binary64 := bounds.least.toList ++ bounds.greatest.toList

/-- A number lies within the bounds, compared with the numbers that they stand for. -/
def Holds (bounds : NumericInterval) (number : ℚ) : Prop :=
  (∀ least, bounds.least = some least →
    if bounds.aboveLeast then least.value < number else least.value ≤ number) ∧
  ∀ greatest, bounds.greatest = some greatest →
    if bounds.belowGreatest then number < greatest.value else number ≤ greatest.value

theorem mem_ends : bound ∈ bounds.ends ↔
    bounds.least = some bound ∨ bounds.greatest = some bound := by
  simp [ends]

theorem contains_iff (finite : ∀ bound ∈ bounds.ends, bound.isFinite = true)
    (numberFinite : number.isFinite = true) :
    bounds.contains number = true ↔ bounds.Holds number.value := by
  simp only [contains, Bool.and_eq_true, Option.all_eq_true]
  refine and_congr (forall_congr' fun least => imp_congr_right fun given => ?_)
    (forall_congr' fun greatest => imp_congr_right fun given => ?_)
  · have leastFinite := finite least (mem_ends.mpr (.inl given))
    split
    · exact Binary64.lessThan_iff leastFinite numberFinite
    · exact Binary64.atMost_iff leastFinite numberFinite
  · have greatestFinite := finite greatest (mem_ends.mpr (.inr given))
    split
    · exact Binary64.lessThan_iff numberFinite greatestFinite
    · exact Binary64.atMost_iff numberFinite greatestFinite

/-! ## Rounded numbers -/

/-- A number that is rounded stays on its side of a bound that is no nearer, unless it is carried
onto the bound. -/
theorem sides_of_nearest {rounded bound number : ℚ}
    (nearest : |rounded - number| ≤ |bound - number|) (apart : rounded = bound → bound = number) :
    (bound < rounded ↔ bound < number) ∧ (rounded < bound ↔ number < bound) := by
  rcases lt_trichotomy bound number with below | same | above
  · rw [abs_of_neg (sub_neg.mpr below), abs_le] at nearest
    have reached : bound ≤ rounded := by linarith [nearest.1]
    have passed : bound < rounded := reached.lt_of_ne' fun onto => below.ne (apart onto)
    exact ⟨iff_of_true passed below, iff_of_false passed.not_gt below.not_gt⟩
  · subst same
    rw [sub_self, abs_zero, abs_nonpos_iff, sub_eq_zero] at nearest
    rw [nearest]
    exact ⟨Iff.rfl, Iff.rfl⟩
  · rw [abs_of_pos (sub_pos.mpr above), abs_le] at nearest
    have reached : rounded ≤ bound := by linarith [nearest.2]
    have passed : rounded < bound := reached.lt_of_ne fun onto => above.ne' (apart onto)
    exact ⟨iff_of_false passed.not_gt above.not_gt, iff_of_true passed above⟩

theorem holds_ofInt_iff (low : -2 ^ 63 ≤ integer) (high : integer ≤ 2 ^ 63)
    (apart : ∀ bound ∈ bounds.ends,
      (Binary64.ofInt integer).value = bound.value → bound.value = integer) :
    bounds.Holds (Binary64.ofInt integer).value ↔ bounds.Holds integer := by
  refine and_congr (forall_congr' fun least => imp_congr_right fun given => ?_)
    (forall_congr' fun greatest => imp_congr_right fun given => ?_)
  · have sides := sides_of_nearest (Binary64.value_nearest low high least)
      (apart least (mem_ends.mpr (.inl given)))
    rw [sides.1, ← not_lt, sides.2, not_lt]
  · have sides := sides_of_nearest (Binary64.value_nearest low high greatest)
      (apart greatest (mem_ends.mpr (.inr given)))
    rw [sides.2, ← not_lt, sides.1, not_lt]

end NumericInterval

namespace Constraint

variable {bounds : NumericInterval}

/-- A whole number satisfies an interval just if the double does that it is rounded to, compared
exactly with the bounds. No double is nearer to the number. The number itself satisfies the
interval in the same cases, unless it is rounded to a bound that it is not; up to `2^53` it is
not rounded at all. -/
theorem accepts_interval_long (finite : ∀ bound ∈ bounds.ends, bound.isFinite = true)
    (number : Int64) :
    let rounded := Binary64.ofInt number.toInt
    (rounded.isFinite = true ∧ ∀ other : Binary64, other.isFinite = true →
      |rounded.value - number.toInt| ≤ |other.value - number.toInt|) ∧
    ((interval bounds).accepts (.long number) = true ↔ bounds.Holds rounded.value) ∧
    ((∀ bound ∈ bounds.ends, rounded.value = bound.value → bound.value = number.toInt) →
      ((interval bounds).accepts (.long number) = true ↔ bounds.Holds number.toInt)) ∧
    (-2 ^ 53 ≤ number.toInt → number.toInt ≤ 2 ^ 53 →
      ((interval bounds).accepts (.long number) = true ↔ bounds.Holds number.toInt)) := by
  intro rounded
  have low : -2 ^ 63 ≤ number.toInt := number.le_toInt
  have high : number.toInt ≤ 2 ^ 63 := Int.le_of_lt number.toInt_lt
  have roundedFinite : rounded.isFinite = true :=
    Binary64.isFinite_ofInt (Binary64.binade_units_lt low high)
  have accepts : (interval bounds).accepts (.long number) = true ↔ bounds.Holds rounded.value :=
    NumericInterval.contains_iff finite roundedFinite
  refine ⟨⟨roundedFinite, fun other _ => Binary64.value_nearest low high other⟩, accepts,
    fun apart => ?_, fun least greatest => ?_⟩
  · rw [accepts]
    exact NumericInterval.holds_ofInt_iff low high apart
  · rw [accepts, show rounded.value = number.toInt from
      Binary64.value_ofInt_of_small least greatest]

/-- Above `2^53` and up to `2^53 + 4`: the number `2^53 + 2` is a double and lies inside. The number
5 is one, too, and lies outside. -/
theorem accepts_interval_long_inside :
    let least : Binary64 := ⟨0x4340000000000000⟩
    let greatest : Binary64 := ⟨0x4340000000000002⟩
    let bounds : NumericInterval := ⟨some least, true, some greatest, false⟩
    (∀ bound ∈ bounds.ends, bound.isFinite = true) ∧
    (∀ bound ∈ bounds.ends, (Binary64.ofInt 9007199254740994).value = bound.value →
      bound.value = (9007199254740994 : Int)) ∧
    (interval bounds).accepts (.long 9007199254740994) = true ∧
    ¬(interval bounds).accepts (.long 5) = true := by
  intro least greatest bounds
  have leastValue : least.value = (9007199254740992 : Int) :=
    Binary64.value_eq_intCast_iff.mpr (by decide +kernel)
  have greatestValue : greatest.value = (9007199254740996 : Int) :=
    Binary64.value_eq_intCast_iff.mpr (by decide +kernel)
  have roundedValue : (Binary64.ofInt 9007199254740994).value = (9007199254740994 : Int) :=
    Binary64.value_eq_intCast_iff.mpr (by decide +kernel)
  have finite : ∀ bound ∈ bounds.ends, bound.isFinite = true := by decide +kernel
  have apart : ∀ bound ∈ bounds.ends, (Binary64.ofInt 9007199254740994).value = bound.value →
      bound.value = (9007199254740994 : Int) :=
    fun bound _ onto => onto.symm.trans roundedValue
  rcases accepts_interval_long finite 9007199254740994 with ⟨-, -, inside, -⟩
  rcases accepts_interval_long finite 5 with ⟨-, -, -, small⟩
  refine ⟨finite, apart, (inside apart).mpr ⟨?_, ?_⟩,
    fun accepted => ?_⟩
  · rintro _ ⟨⟩
    rw [if_pos rfl, leastValue]
    decide +kernel
  · rintro _ ⟨⟩
    rw [if_neg (by decide), greatestValue]
    decide +kernel
  · have outside := ((small (by decide) (by decide)).mp accepted).1 least rfl
    rw [if_pos rfl, leastValue] at outside
    exact absurd outside (by decide +kernel)

/-- The number `2^53 + 1` is rounded to `2^53`. So it is accepted where this is the greatest number
allowed, and it is rejected where every greater number is allowed. -/
theorem accepts_interval_long_rounded :
    let bound : Binary64 := ⟨0x4340000000000000⟩
    let upTo : NumericInterval := ⟨none, false, some bound, false⟩
    let above : NumericInterval := ⟨some bound, true, none, false⟩
    let number : Int64 := 9007199254740993
    (interval upTo).accepts (.long number) = true ∧ ¬upTo.Holds number.toInt ∧
    (interval above).accepts (.long number) = false ∧ above.Holds number.toInt := by
  intro bound upTo above number
  have value : bound.value = (9007199254740992 : Int) :=
    Binary64.value_eq_intCast_iff.mpr (by decide +kernel)
  have beyond : bound.value < number.toInt := by
    rw [value]
    decide +kernel
  refine ⟨by decide +kernel, fun holds => ?_, by decide +kernel, ?_⟩
  · exact absurd (holds.2 bound rfl) (not_le.mpr beyond)
  · exact ⟨fun least given => Option.some.inj given ▸ beyond, fun _ given => nomatch given⟩

end Constraint
end DocumentTypes
