import DocumentTypes.Primitive.Codec

/-! # Scalars

What a primitive makes of a text or of another value it accepts itself. -/

namespace DocumentTypes

theorem Decimal.readIntWithin?_eq_some_iff {least greatest value : Int} {text : String} :
    readIntWithin? least greatest text = some value ↔
      readInt? text = some value ∧ least ≤ value ∧ value ≤ greatest := by
  simp only [readIntWithin?, Option.filter_eq_some_iff, Bool.and_eq_true, decide_eq_true_iff]

namespace PrimitiveKind

variable {kind : PrimitiveKind} {text : String} {value converted : Value}

theorem validate_null (kind : PrimitiveKind) : kind.validate .null = true := by
  cases kind <;> rfl

theorem isInteger_ofInt {number : Int} (least : leastInteger ≤ number)
    (greatest : number ≤ greatestInteger) : isInteger (Int64.ofInt number) = true := by
  have exact : (Int64.ofInt number).toInt = number := by
    have low : leastInteger = -2147483648 := by decide
    have high : greatestInteger = 2147483647 := by decide
    exact Int64.toInt_ofInt_of_le (by omega) (by omega)
  rw [isInteger, exact]
  simp [least, greatest]

theorem validate_of_read? (read : kind.read? text = some value) :
    kind.validate value = true := by
  cases kind with
  | string | any | binary =>
      cases read
      rfl
  | boolean | double | date | long =>
      rw [read?, Option.map_eq_some_iff] at read
      rcases read with ⟨answer, -, rfl⟩
      rfl
  | integer =>
      rw [read?, Option.map_eq_some_iff] at read
      rcases read with ⟨number, within, rfl⟩
      rcases Decimal.readIntWithin?_eq_some_iff.mp within with ⟨-, low, high⟩
      exact isInteger_ofInt low high

theorem validate_of_decode {text : Option String}
    (decoded : kind.decode text = .ok value) : kind.validate value = true := by
  cases text with
  | none =>
      cases decoded
      exact kind.validate_null
  | some text =>
      unfold decode at decoded
      cases read : kind.read? text with
      | none => simp [read] at decoded
      | some answer =>
          simp only [read] at decoded
          cases decoded
          exact validate_of_read? read

theorem validate_of_convert? (answer : kind.convert? value = some converted) :
    kind.validate converted = true := by
  unfold convert? at answer
  split at answer
  case h_1 => cases converted <;> rfl
  -- A number becomes an integer only if it is in range.
  case h_8 =>
    split at answer
    next inRange =>
      cases answer
      exact inRange
    next => cases answer
  case h_9 =>
    rcases Option.bind_eq_some_iff.mp answer with ⟨whole, -, rest⟩
    dsimp only at rest
    split at rest
    next inRange =>
      cases rest
      exact inRange
    next => cases rest
  case h_11 | h_15 =>
    rcases Option.map_eq_some_iff.mp answer with ⟨_, -, rfl⟩
    rfl
  case h_17 => exact validate_of_read? answer
  case h_18 => cases answer
  all_goals
    cases answer
    rfl

theorem validate_of_convert (answer : kind.convert value = .ok converted) :
    kind.validate converted = true := by
  unfold convert at answer
  split at answer
  · cases answer
    exact kind.validate_null
  · cases found : kind.convert? value with
    | none => simp [found] at answer
    | some other =>
        simp only [found] at answer
        cases answer
        exact validate_of_convert? found

/-! ## Conversion of what has been converted -/

theorem convert?_of_read? (read : kind.read? text = some value) :
    kind.convert? value = some value := by
  cases kind with
  | string | any | binary =>
      cases read
      rfl
  | boolean | double | date | long =>
      rw [read?, Option.map_eq_some_iff] at read
      rcases read with ⟨answer, -, rfl⟩
      rfl
  | integer =>
      have inRange := validate_of_read? read
      rw [read?, Option.map_eq_some_iff] at read
      rcases read with ⟨number, -, rfl⟩
      exact if_pos inRange

theorem convert?_of_convert? (answer : kind.convert? value = some converted) :
    kind.convert? converted = some converted := by
  unfold convert? at answer
  split at answer
  case h_8 =>
    split at answer
    next inRange =>
      cases answer
      exact if_pos inRange
    next => cases answer
  case h_9 =>
    rcases Option.bind_eq_some_iff.mp answer with ⟨whole, -, rest⟩
    dsimp only at rest
    split at rest
    next inRange =>
      cases rest
      exact if_pos inRange
    next => cases rest
  case h_11 | h_15 =>
    rcases Option.map_eq_some_iff.mp answer with ⟨_, -, rfl⟩
    rfl
  case h_17 => exact convert?_of_read? answer
  case h_18 => cases answer
  all_goals
    cases answer
    rfl

theorem convert_of_convert? (same : kind.convert? value = some value) :
    kind.convert value = .ok value := by
  unfold convert
  split
  · rfl
  · rw [same]

theorem convert_of_convert (answer : kind.convert value = .ok converted) :
    kind.convert converted = .ok converted := by
  unfold convert at answer
  split at answer
  · cases answer
    rfl
  · cases found : kind.convert? value with
    | none => simp [found] at answer
    | some other =>
        simp only [found] at answer
        cases answer
        exact convert_of_convert? (convert?_of_convert? found)

theorem convert_of_decode {text : Option String} (answer : kind.decode text = .ok value) :
    kind.convert value = .ok value := by
  cases text with
  | none =>
      cases answer
      rfl
  | some text =>
      rw [decode] at answer
      cases read : kind.read? text with
      | none => simp [read] at answer
      | some other =>
          simp only [read] at answer
          cases answer
          exact convert_of_convert? (convert?_of_read? read)

/-! ## What is accepted is kept -/

theorem validate_newInstance (kind : PrimitiveKind) :
    kind.validate kind.newInstance = true := by
  cases kind <;> decide +kernel

/-- How a primitive holds a value that it accepts: as it is, except that a double slot holds
a whole number as a double. -/
def held : PrimitiveKind → Value → Value
  | .double, .long number => .double (Binary64.ofInt number.toInt)
  | _, value => value

@[simp] theorem validate_held (kind : PrimitiveKind) (value : Value) :
    kind.validate (kind.held value) = kind.validate value := by
  unfold held
  split <;> rfl

theorem convert?_of_validate (isValue : value.isNull = false)
    (accepted : kind.validate value = true) : kind.convert? value = some (kind.held value) := by
  unfold validate at accepted
  split at accepted
  -- Null is accepted by all, but it is not converted.
  case h_1 => cases isValue
  case h_5 => exact if_pos accepted
  case h_11 => cases accepted
  all_goals rfl

theorem convert_of_validate (accepted : kind.validate value = true) :
    kind.convert value = .ok (kind.held value) := by
  cases value with
  | null => cases kind <;> rfl
  | _ => simp only [convert, convert?_of_validate rfl accepted]

theorem validate_iff_convert : kind.validate value = true ↔
    kind.convert value = .ok (kind.held value) := by
  refine ⟨convert_of_validate, fun answer => ?_⟩
  simpa using validate_of_convert answer

/-- A primitive accepts whatever it makes, by conversion, from a text or for a fresh slot;
and the values that it accepts are just those that conversion leaves as the primitive holds
them. -/
theorem validate_of_made (kind : PrimitiveKind) :
    (∀ value converted, kind.convert value = .ok converted → kind.validate converted = true) ∧
    (∀ text value, kind.decode (some text) = .ok value → kind.validate value = true) ∧
    kind.validate kind.newInstance = true ∧
    ∀ value, kind.validate value = true ↔ kind.convert value = .ok (kind.held value) :=
  ⟨fun _ _ => validate_of_convert, fun _ _ => validate_of_decode, validate_newInstance kind,
    fun _ => validate_iff_convert⟩

/-- The least integer is read from its text, and a double slot holds seven as a double. -/
theorem validate_of_made_least :
    integer.decode (some "-2147483648") = .ok (.long (-2147483648)) ∧
    integer.validate (.long (-2147483648)) = true ∧
    double.convert (.long 7) = .ok (.double (Binary64.ofInt (7 : Int64).toInt)) :=
  ⟨rfl, (validate_of_made integer).2.1 "-2147483648" _ rfl,
    ((validate_of_made double).2.2.2 (.long 7)).mp rfl⟩

example : integer.validate (.long 2147483648) = false := by decide +kernel

end PrimitiveKind
end DocumentTypes
