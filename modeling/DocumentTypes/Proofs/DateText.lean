import DocumentTypes.Proofs.DayNumbers
import DocumentTypes.Primitive.Codec

/-! # The text of dates

Each part that an instant writes is read back from the front of its text: a padded number by
its width, a fraction up to the offset. So an instant whose year has four digits is read back
whole, unless it lies on a leap second within a minute, which is written like the second after
it. Any other year carries a sign, which opens no timestamp, and the time of day behind it closes
no bare date. -/

namespace DocumentTypes

namespace Calendar.Instant

/-! ## Digits -/

variable {width value most : Nat} {rest : List Char} {character : Char}

theorem isDigit_of_mem_padded (member : character ∈ (padded width value).toList) :
    character.isDigit = true := by
  rw [padded, String.toList_ofList] at member
  rcases List.mem_append.mp member with zero | digit
  · rw [List.eq_of_mem_replicate zero]
    rfl
  · exact Nat.isDigit_of_mem_toDigits (by decide) (by decide) digit

theorem length_padded (positive : 0 < width) (small : value < 10 ^ width) :
    (padded width value).toList.length = width := by
  have short := (Nat.length_toDigits_le_iff (by decide) positive).mpr small
  rw [padded, String.toList_ofList, List.length_append, List.length_replicate]
  exact Nat.sub_add_cancel short

theorem ofDigitChars_padded : Nat.ofDigitChars 10 (padded width value).toList 0 = value := by
  rw [padded, String.toList_ofList, Nat.ofDigitChars_append, Nat.ofDigitChars_replicate_zero,
    Nat.mul_zero, Nat.ofDigitChars_ten_toDigits]

theorem padded_ne_nil : (padded width value).toList ≠ [] := by
  rw [padded, String.toList_ofList]
  exact List.append_ne_nil_of_right_ne_nil _ Nat.toDigits_ne_nil

theorem takeFixed?_padded (positive : 0 < width) (small : value < 10 ^ width) :
    takeFixed? width ((padded width value).toList ++ rest) = some (value, rest) := by
  have length := length_padded positive small
  have digits : (padded width value).toList.all Char.isDigit = true :=
    List.all_eq_true.mpr fun _ member => isDigit_of_mem_padded member
  unfold takeFixed?
  rw [List.take_left' length, List.drop_left' length]
  simp only [length, digits, beq_self_eq_true, Bool.and_self, if_true, ofDigitChars_padded]

theorem takeWhile_padded (noDigit : rest.takeWhile Char.isDigit = []) :
    ((padded width value).toList ++ rest).takeWhile Char.isDigit = (padded width value).toList := by
  rw [List.takeWhile_append_of_pos fun _ member => isDigit_of_mem_padded member, noDigit,
    List.append_nil]

theorem takeNumber?_padded (enough : (padded width value).toList.length ≤ most)
    (noDigit : (rest.take (most - (padded width value).toList.length)).takeWhile Char.isDigit = []) :
    takeNumber? most ((padded width value).toList ++ rest) = some (value, rest) := by
  have given : (padded width value).toList.isEmpty = false := by
    simpa using padded_ne_nil
  unfold takeNumber?
  rw [List.take_append, List.take_of_length_le enough, takeWhile_padded noDigit]
  simp only [given, Bool.false_eq_true, if_false, ofDigitChars_padded, List.drop_left]

/-! ## Fractions -/

theorem takeFraction?_padded (width value : Nat) (positive : 0 < width) (most : width ≤ 9)
    (small : value < 10 ^ width) :
    takeFraction? (("." ++ padded width value).toList ++ ['Z']) =
      some (value * 10 ^ (9 - width), ['Z']) := by
  have length := length_padded positive small
  have given : (padded width value).toList.isEmpty = false := by
    simpa using padded_ne_nil
  have text : ("." ++ padded width value).toList ++ ['Z'] =
      '.' :: ((padded width value).toList ++ ['Z']) := by simp
  have noDigit : ['Z'].takeWhile Char.isDigit = [] := rfl
  have all : (padded width value).toList.take 9 = (padded width value).toList :=
    List.take_of_length_le (Nat.le_trans (Nat.le_of_eq length) most)
  rw [text]
  unfold takeFraction?
  simp only [takeWhile_padded noDigit, given, Bool.false_eq_true, if_false, all,
    ofDigitChars_padded, length, List.drop_left' length]
  rfl

theorem takeFraction?_writeFraction (small : value < 1000000000) :
    takeFraction? ((writeFraction value).toList ++ ['Z']) = some (value, ['Z']) := by
  unfold writeFraction
  split
  next zero =>
    rw [zero]
    rfl
  split
  next millis =>
    rw [takeFraction?_padded 3 _ (by decide) (by decide) (by omega)]
    congr 2
    omega
  split
  next micros =>
    rw [takeFraction?_padded 6 _ (by decide) (by decide) (by omega)]
    congr 2
    omega
  · rw [takeFraction?_padded 9 _ (by decide) (by decide) (by omega)]
    congr 2
    omega

/-! ## Timestamps -/

theorem takeFixed?_two (small : value < 100) :
    takeFixed? 2 ((padded 2 value).toList ++ rest) = some (value, rest) :=
  takeFixed?_padded (by decide) small

theorem readTimestamp?_eq {year month day hour minute second nanos : Nat} {fraction : List Char}
    (yearSmall : year < 10000) (monthSmall : month < 100) (daySmall : day < 100)
    (hourSmall : hour < 100) (minuteSmall : minute < 100) (secondSmall : second < 100)
    (read : takeFraction? (fraction ++ ['Z']) = some (nanos, ['Z'])) :
    readTimestamp? ((padded 4 year).toList ++ '-' :: ((padded 2 month).toList ++ '-' ::
      ((padded 2 day).toList ++ 'T' :: ((padded 2 hour).toList ++ ':' ::
        ((padded 2 minute).toList ++ ':' :: ((padded 2 second).toList ++
          (fraction ++ ['Z']))))))) = ofClock? ⟨year, month, day⟩ hour minute second nanos 0 := by
  have yearRead (rest : List Char) :
      takeFixed? 4 ((padded 4 year).toList ++ rest) = some (year, rest) :=
    takeFixed?_padded (by decide) yearSmall
  have mark (character : Char) (rest : List Char) :
      takeChar? character (character :: rest) = some rest := by simp [takeChar?]
  have offset : readOffset? ['Z'] = some 0 := rfl
  -- The reader is followed one part at a time: what is behind a part is open until it is read.
  unfold readTimestamp?
  rw [yearRead]
  dsimp only [Option.bind_eq_bind, Option.bind_some]
  rw [mark]
  dsimp only [Option.bind_some]
  rw [takeFixed?_two monthSmall]
  dsimp only [Option.bind_some]
  rw [mark]
  dsimp only [Option.bind_some]
  rw [takeFixed?_two daySmall]
  dsimp only [Option.bind_some]
  rw [mark]
  dsimp only [Option.orElse_eq_orElse, Option.orElse_some, Option.bind_some]
  rw [takeFixed?_two hourSmall]
  dsimp only [Option.bind_some]
  rw [mark]
  dsimp only [Option.bind_some]
  rw [takeFixed?_two minuteSmall]
  dsimp only [Option.bind_some]
  rw [mark]
  dsimp only [Option.bind_some]
  rw [takeFixed?_two secondSmall]
  dsimp only [Option.bind_some]
  rw [read]
  dsimp only [Option.bind_some]
  rw [offset]
  rfl

theorem readTimestamp?_of_sign (sign : character.isDigit = false) :
    readTimestamp? (character :: rest) = none := by
  have noYear : takeFixed? 4 (character :: rest) = none := by
    simp [takeFixed?, sign]
  rw [readTimestamp?, noYear]
  rfl

/-! ## Bare days -/

theorem exists_cons_padded (width value : Nat) : ∃ first others,
    (padded width value).toList = first :: others ∧ Text.isBlank first = false := by
  have given : (padded width value).toList ≠ [] := padded_ne_nil
  rcases List.exists_cons_of_ne_nil given with ⟨first, others, equal⟩
  have digit : first.isDigit = true := isDigit_of_mem_padded (equal ▸ List.mem_cons_self)
  exact ⟨first, others, equal, Text.isBlank_of_isDigit digit⟩

theorem dropWhile_isBlank_padded :
    ((padded width value).toList ++ rest).dropWhile Text.isBlank =
      (padded width value).toList ++ rest := by
  rcases exists_cons_padded width value with ⟨first, others, equal, visible⟩
  rw [equal, List.cons_append, List.dropWhile_cons_of_neg]
  simp [visible]

theorem takeYear?_of_sign {sign : Char} (signed : sign = '-' ∨ sign = '+')
    (noDigit : rest.takeWhile Char.isDigit = []) :
    ∃ year, takeYear? (sign :: ((padded width value).toList ++ rest)) = some (year, rest) := by
  have number : takeNumber? ((padded width value).toList ++ rest).length
      ((padded width value).toList ++ rest) = some (value, rest) := by
    refine takeNumber?_padded ?_ ?_
    · rw [List.length_append]
      exact Nat.le_add_right _ _
    · rwa [List.length_append, Nat.add_sub_cancel_left, List.take_length]
  have visible : Text.isBlank sign = false := by rcases signed with rfl | rfl <;> rfl
  unfold takeYear?
  rw [List.dropWhile_cons_of_neg (by simp [visible])]
  rcases signed with rfl | rfl
  · exact ⟨-(value : Int), congrArg (Option.map _) number⟩
  · exact ⟨(value : Int), congrArg (Option.map _) number⟩

theorem takeNumber?_two (small : value < 100) :
    takeNumber? 2 ((padded 2 value).toList ++ rest) = some (value, rest) := by
  have length : (padded 2 value).toList.length = 2 := length_padded (by decide) small
  refine takeNumber?_padded (Nat.le_of_eq length) ?_
  rw [length]
  rfl

theorem readDay?_of_sign {sign : Char} {year month day : Nat} (signed : sign = '-' ∨ sign = '+')
    (monthSmall : month < 100) (daySmall : day < 100) :
    readDay? (sign :: ((padded 4 year).toList ++ '-' :: ((padded 2 month).toList ++ '-' ::
      ((padded 2 day).toList ++ 'T' :: rest)))) = none := by
  have noDigit : ('-' :: ((padded 2 month).toList ++ '-' :: ((padded 2 day).toList ++
      'T' :: rest))).takeWhile Char.isDigit = [] := rfl
  have yearRead : ∃ number, takeYear? (sign :: ((padded 4 year).toList ++ _)) = _ :=
    takeYear?_of_sign signed noDigit
  rcases yearRead with ⟨number, yearRead⟩
  simp [readDay?, yearRead, takeChar?, dropWhile_isBlank_padded, takeNumber?_two, monthSmall,
    daySmall]

/-! ## Both ways -/

/-- The day of universal time on which an instant falls. -/
def date (instant : Instant) : Day := Day.ofNumber (instant.seconds / 86400)

def clock (instant : Instant) : Nat := (instant.seconds % 86400).toNat

def clockSecond (instant : Instant) : Nat :=
  instant.clock % 60 + (if 1000000000 ≤ instant.nanos then 1 else 0)

variable {instant : Instant}

theorem toList_write (instant : Instant) : instant.write.toList =
    (writeYear instant.date.year).toList ++ '-' :: ((padded 2 instant.date.month).toList ++
      '-' :: ((padded 2 instant.date.day).toList ++ 'T' ::
        ((padded 2 (instant.clock / 3600)).toList ++ ':' ::
          ((padded 2 (instant.clock / 60 % 60)).toList ++ ':' ::
            ((padded 2 instant.clockSecond).toList ++
              ((writeFraction (instant.nanos % 1000000000)).toList ++ ['Z'])))))) := by
  simp [write, date, clock, clockSecond]

theorem bounds (instant : Instant) :
    firstSecond ≤ instant.seconds ∧ instant.seconds ≤ lastSecond ∧
      instant.nanos < 2000000000 := by
  simpa [isInstant, and_assoc] using instant.valid

theorem isValid_date (instant : Instant) : instant.date.isValid = true := by
  have bounds := instant.bounds
  unfold firstSecond lastSecond at bounds
  exact Day.isValid_ofNumber (by omega) (by omega)

theorem toNumber_date (instant : Instant) : instant.date.toNumber = instant.seconds / 86400 :=
  Day.toNumber_ofNumber _

def OnLeapWithinMinute (instant : Instant) : Prop :=
  1000000000 ≤ instant.nanos ∧ instant.seconds % 60 ≠ 59

instance (instant : Instant) : Decidable instant.OnLeapWithinMinute :=
  inferInstanceAs (Decidable (_ ∧ _))

theorem isInstant_next (onLeap : instant.OnLeapWithinMinute) :
    isInstant (instant.seconds + 1) (instant.nanos - 1000000000) = true := by
  have bounds := instant.bounds
  have last : lastSecond = 8210266876799 := by decide
  have notLast := onLeap.2
  simp only [isInstant, Bool.and_eq_true, decide_eq_true_eq]
  omega

def meant (instant : Instant) : Instant :=
  if onLeap : instant.OnLeapWithinMinute then
    ⟨instant.seconds + 1, instant.nanos - 1000000000, isInstant_next onLeap⟩
  else instant

theorem meant_eq_self_iff : instant.meant = instant ↔ ¬instant.OnLeapWithinMinute := by
  unfold meant
  split
  next onLeap =>
    refine iff_of_false (fun same => ?_) (not_not_intro onLeap)
    have seconds := congrArg Instant.seconds same
    simp at seconds
  next usual => exact iff_of_true rfl usual

theorem ofClock?_date (instant : Instant) : ofClock? instant.date (instant.clock / 3600)
    (instant.clock / 60 % 60) instant.clockSecond (instant.nanos % 1000000000) 0 =
      some instant.meant := by
  have day := toNumber_date instant
  have nanos := instant.bounds.2.2
  have clock_eq : (instant.clock : Int) = instant.seconds % 86400 := by unfold clock; omega
  -- Second 60 is written just where a leap second ends its minute.
  have second : instant.clockSecond = instant.clock % 60 ∧ instant.nanos < 1000000000 ∨
      instant.clockSecond = instant.clock % 60 + 1 ∧ 1000000000 ≤ instant.nanos := by
    unfold clockSecond
    split <;> omega
  have within : (instant.date.isValid && instant.clock / 3600 < 24 &&
      instant.clock / 60 % 60 < 60 && instant.clockSecond ≤ 60) = true := by
    simp only [isValid_date, Bool.and_eq_true, decide_eq_true_eq, true_and]
    omega
  have parts : ofParts? instant.meant.seconds instant.meant.nanos = some instant.meant :=
    dif_pos instant.meant.valid
  unfold ofClock?
  dsimp only
  rw [if_pos within, day, ← parts]
  by_cases onLeap : instant.OnLeapWithinMinute
  · have next : instant.meant = ⟨_, _, isInstant_next onLeap⟩ := dif_pos onLeap
    rcases onLeap with ⟨leap, notLast⟩
    have notSixty : (instant.clockSecond == 60) = false := by
      rw [beq_eq_false_iff_ne]
      omega
    simp only [next, notSixty, Bool.false_eq_true, if_false]
    refine congrArg₂ ofParts? ?_ ?_
    all_goals omega
  · have same := meant_eq_self_iff.mpr onLeap
    rw [OnLeapWithinMinute, not_and_or, not_not] at onLeap
    rw [same]
    rcases second with ⟨second, usual⟩ | ⟨second, leap⟩
    · have notSixty : (instant.clockSecond == 60) = false := by
        rw [beq_eq_false_iff_ne]
        omega
      simp only [notSixty, Bool.false_eq_true, if_false]
      refine congrArg₂ ofParts? ?_ ?_
      all_goals omega
    · have sixty : instant.clockSecond = 60 := by omega
      simp only [sixty, beq_self_eq_true, if_true]
      refine congrArg₂ ofParts? ?_ ?_
      all_goals omega

theorem parts_small (instant : Instant) : instant.date.month < 100 ∧ instant.date.day < 100 := by
  have valid := isValid_date instant
  simp only [Day.isValid, Bool.and_eq_true, decide_eq_true_eq] at valid
  have longest : daysInMonth instant.date.year instant.date.month ≤ 31 := by
    unfold daysInMonth
    split
    · split <;> omega
    · split <;> omega
  omega

theorem trimChars_of_visible {text others front : List Char} {first last : Char}
    (opening : text = first :: others) (closing : text = front ++ [last])
    (firstVisible : Text.isBlank first = false) (lastVisible : Text.isBlank last = false) :
    Text.trimChars text = text := by
  have kept : text.dropWhile Text.isBlank = text := by
    rw [opening, List.dropWhile_cons_of_neg (by simp [firstVisible])]
  rw [Text.trimChars, kept, closing, List.reverse_concat,
    List.dropWhile_cons_of_neg (by simp [lastVisible]), List.reverse_cons, List.reverse_reverse]

theorem exists_cons_writeYear (year : Int) : ∃ first others,
    (writeYear year).toList = first :: others ∧ Text.isBlank first = false := by
  unfold writeYear
  split
  · exact exists_cons_padded ..
  · split
    · exact ⟨'-', _, String.toList_append, rfl⟩
    · exact ⟨'+', _, String.toList_append, rfl⟩

theorem trim_write (instant : Instant) : Text.trim instant.write = instant.write := by
  rcases exists_cons_writeYear instant.date.year with ⟨first, others, year, visible⟩
  have opening := instant.toList_write
  rw [year, List.cons_append] at opening
  have closing : ∃ front, instant.write.toList = front ++ ['Z'] := ⟨_, String.toList_append⟩
  rcases closing with ⟨front, closing⟩
  rw [Text.trim, trimChars_of_visible opening closing visible rfl, String.ofList_toList]

theorem read?_write (fourDigits : 0 ≤ instant.date.year ∧ instant.date.year ≤ 9999) :
    read? instant.write = some instant.meant := by
  rcases Int.eq_ofNat_of_zero_le fourDigits.1 with ⟨year, year_eq⟩
  have clock_lt : instant.clock < 86400 := by unfold clock; omega
  have second : instant.clockSecond < 100 := by
    unfold clockSecond
    split <;> omega
  have written : writeYear instant.date.year = padded 4 year := by
    rw [writeYear, if_pos (by simpa using fourDigits), year_eq]
    rfl
  have date_eq : instant.date = ⟨year, instant.date.month, instant.date.day⟩ := by
    rw [← year_eq]
  have timestamp : readTimestamp? instant.write.toList = some instant.meant := by
    rw [toList_write, written, readTimestamp?_eq (by omega) instant.parts_small.1
      instant.parts_small.2 (by omega) (by omega) second
      (takeFraction?_writeFraction (Nat.mod_lt _ (by decide))), ← date_eq, ofClock?_date]
  rw [read?, timestamp]
  rfl

theorem read?_write_of_signed (signed : ¬(0 ≤ instant.date.year ∧ instant.date.year ≤ 9999)) :
    read? instant.write = none := by
  have opening : ∃ sign, (sign = '-' ∨ sign = '+') ∧ (writeYear instant.date.year).toList =
      sign :: (padded 4 instant.date.year.natAbs).toList := by
    rw [writeYear, if_neg (by simpa using signed)]
    split
    · exact ⟨'-', .inl rfl, String.toList_append⟩
    · exact ⟨'+', .inr rfl, String.toList_append⟩
  rcases opening with ⟨sign, signs, year⟩
  have noDigit : sign.isDigit = false := by rcases signs with rfl | rfl <;> rfl
  rw [read?, toList_write, year, List.cons_append, readTimestamp?_of_sign noDigit,
    readDay?_of_sign signs instant.parts_small.1 instant.parts_small.2]
  rfl

end Calendar.Instant

namespace PrimitiveKind

/-- A date is written, and read back just when its year has four digits and it lies on no leap
second within a minute. There it is read as the second after, and any other year is not read. -/
theorem decode_encode_date (instant : Calendar.Instant) : ∃ day text,
    (∀ other : Calendar.Day,
      other.isValid = true ∧ other.toNumber = instant.seconds / 86400 ↔ other = day) ∧
    encode? (.date instant) = some text ∧
    (decode .date (some text) = .ok (.date instant) ↔ (0 ≤ day.year ∧ day.year ≤ 9999) ∧
      (1000000000 ≤ instant.nanos → instant.seconds % 60 = 59)) ∧
    (0 ≤ day.year ∧ day.year ≤ 9999 → ∃ meant : Calendar.Instant,
      decode .date (some text) = .ok (.date meant) ∧
      (1000000000 ≤ instant.nanos ∧ instant.seconds % 60 ≠ 59 →
        meant.seconds = instant.seconds + 1 ∧ meant.nanos = instant.nanos - 1000000000)) ∧
    (¬(0 ≤ day.year ∧ day.year ≤ 9999) → ∃ failure,
      decode .date (some text) = .error failure ∧ failure = .undecodable text .date ∧
        failure.category = .decode) := by
  have trimmed := instant.trim_write
  have decoded (fourDigits : 0 ≤ instant.date.year ∧ instant.date.year ≤ 9999) :
      decode .date (some instant.write) = .ok (.date instant.meant) := by
    simp [decode, read?, trimmed, Calendar.Instant.read?_write fourDigits]
  have undecoded (signed : ¬(0 ≤ instant.date.year ∧ instant.date.year ≤ 9999)) :
      decode .date (some instant.write) = .error (.undecodable instant.write .date) := by
    simp [decode, read?, trimmed, Calendar.Instant.read?_write_of_signed signed]
  refine ⟨instant.date, instant.write, fun other => ?_, rfl, ?_, fun fourDigits => ?_,
    fun signed => ⟨_, undecoded signed, rfl, rfl⟩⟩
  · constructor
    · rintro ⟨valid, number⟩
      rw [← Calendar.Day.ofNumber_toNumber valid, number]
      rfl
    · rintro rfl
      exact ⟨instant.isValid_date, instant.toNumber_date⟩
  · by_cases fourDigits : 0 ≤ instant.date.year ∧ instant.date.year ≤ 9999
    · have usual := instant.meant_eq_self_iff
      rw [Calendar.Instant.OnLeapWithinMinute, not_and, not_not] at usual
      rw [decoded fourDigits, ← usual]
      simp [fourDigits]
    · simp [undecoded fourDigits, fourDigits]
  · refine ⟨instant.meant, decoded fourDigits, fun onLeap => ?_⟩
    have next : instant.meant =
        ⟨_, _, Calendar.Instant.isInstant_next onLeap⟩ := dif_pos onLeap
    rw [next]
    exact ⟨rfl, rfl⟩

/-- A leap second in the middle of a minute comes back as the second that follows it. -/
theorem decode_encode_leap_within_minute :
    let instant : Calendar.Instant := ⟨1709294404, 1333333333, by decide⟩
    let later : Calendar.Instant := ⟨1709294405, 333333333, by decide⟩
    (Calendar.Day.ofNumber (instant.seconds / 86400)).year = 2024 ∧
    encode? (.date instant) = some "2024-03-01T12:00:05.333333333Z" ∧
    decode .date (some "2024-03-01T12:00:05.333333333Z") = .ok (.date later) ∧
    decode .date (some "2024-03-01T12:00:05.333333333Z") ≠ .ok (.date instant) := by
  intro instant later
  have read : Calendar.Instant.read? (Text.trim "2024-03-01T12:00:05.333333333Z") = some later := by
    decide +kernel
  have decoded : decode .date (some "2024-03-01T12:00:05.333333333Z") = .ok (.date later) := by
    simp [decode, read?, read]
  have different : later ≠ instant := by decide
  refine ⟨by decide +kernel, by decide +kernel, decoded, fun same => different ?_⟩
  exact Value.date.inj (Except.ok.inj (decoded.symm.trans same))

end PrimitiveKind
end DocumentTypes
