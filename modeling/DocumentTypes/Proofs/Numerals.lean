import DocumentTypes.Proofs.ItemTexts
import DocumentTypes.Unicode.Property
import Mathlib.Algebra.Group.Int.Defs

/-! # Numerals

A whole number is read from a numeral, digits with or without a sign, that may have white space
around it. Every numeral in the range of a primitive is read as its number, no other text is read
at all, and the numeral that a number is written as is among those that are read as it. -/

namespace DocumentTypes

/-! ## White space -/

namespace Text

open Unicode (CodeSet)

variable {text part : List Char}

theorem isBlank_eq_contains (character : Char) :
    isBlank character = Unicode.Property.whiteSpace.contains character.toNat := by
  have spans : Unicode.Property.whiteSpace.spans.map (fun span => (span.first, span.last)) =
      [(9, 13), (0x20, 0x20), (0x85, 0x85), (0xa0, 0xa0), (0x1680, 0x1680), (0x2000, 0x200a),
        (0x2028, 0x2029), (0x202f, 0x202f), (0x205f, 0x205f), (0x3000, 0x3000)] := by
    decide +kernel
  have contains (set : CodeSet) (code : Nat) : set.contains code =
      (set.spans.map fun span => (span.first, span.last)).any fun ends =>
        ends.1 ≤ code && code ≤ ends.2 := by
    rw [List.any_map]
    rfl
  rw [contains, spans, Bool.eq_iff_iff]
  simp [isBlank]
  omega

/-- A text with nothing but white space around a part of it. -/
def Pads (text part : List Char) : Prop :=
  ∃ before after, text = before ++ part ++ after ∧ ∀ character ∈ before ++ after,
    Unicode.Property.whiteSpace.contains character.toNat = true

theorem pads_iff : Pads text part ↔ ∃ before after, text = before ++ part ++ after ∧
    (∀ character ∈ before, isBlank character = true) ∧
    ∀ character ∈ after, isBlank character = true := by
  simp only [Pads, ← isBlank_eq_contains, List.forall_mem_append]

theorem pads_trimChars (text : List Char) : Pads text (trimChars text) := by
  rcases (⟨_, rfl⟩ : ∃ rest, text.dropWhile isBlank = rest) with ⟨rest, rest_eq⟩
  refine pads_iff.mpr ⟨text.takeWhile isBlank, (rest.reverse.takeWhile isBlank).reverse, ?_,
    fun _ member => List.mem_takeWhile_imp member,
    fun _ member => List.mem_takeWhile_imp (List.mem_reverse.mp member)⟩
  rw [trimChars, rest_eq, List.append_assoc, ← List.reverse_append,
    List.takeWhile_append_dropWhile, List.reverse_reverse, ← rest_eq,
    List.takeWhile_append_dropWhile]

theorem dropWhile_isBlank {before part rest : List Char} (given : part ≠ [])
    (blank : ∀ character ∈ before, isBlank character = true)
    (visible : ∀ character ∈ part, isBlank character = false) :
    (before ++ (part ++ rest)).dropWhile isBlank = part ++ rest := by
  rcases List.exists_cons_of_ne_nil given with ⟨first, others, rfl⟩
  rw [List.dropWhile_append_of_pos blank, List.cons_append, List.dropWhile_cons_of_neg]
  simp [visible first List.mem_cons_self]

theorem Pads.trimChars_eq (pads : Pads text part) (given : part ≠ [])
    (visible : ∀ character ∈ part, isBlank character = false) : trimChars text = part := by
  rcases pads_iff.mp pads with ⟨before, after, rfl, blankBefore, blankAfter⟩
  have reversed : (after.reverse ++ (part.reverse ++ [])).dropWhile isBlank = part.reverse ++ [] :=
    dropWhile_isBlank (by simpa using given)
      (fun _ member => blankAfter _ (List.mem_reverse.mp member))
      (fun _ member => visible _ (List.mem_reverse.mp member))
  rw [trimChars, List.append_assoc, dropWhile_isBlank given blankBefore visible,
    List.reverse_append]
  rw [List.append_nil] at reversed
  rw [reversed, List.reverse_reverse]

end Text

/-! ## Numerals -/

namespace Decimal

variable {numeral : List Char} {text : String} {value : Int}

/-- Digits with or without a sign in front of them, and the whole number that they stand for.
There may be any number of leading zeros. -/
inductive Numeral : List Char → Int → Prop
  | unsigned {digits : List Char} (given : digits ≠ [])
      (each : ∀ character ∈ digits, character.isDigit = true) :
      Numeral digits (Nat.ofDigitChars 10 digits 0)
  | plus {digits : List Char} (given : digits ≠ [])
      (each : ∀ character ∈ digits, character.isDigit = true) :
      Numeral ('+' :: digits) (Nat.ofDigitChars 10 digits 0)
  | minus {digits : List Char} (given : digits ≠ [])
      (each : ∀ character ∈ digits, character.isDigit = true) :
      Numeral ('-' :: digits) (-(Nat.ofDigitChars 10 digits 0 : Int))

theorem readDigits?_eq_some_iff {digits : List Char} {magnitude : Nat} :
    readDigits? digits = some magnitude ↔ digits ≠ [] ∧
      (∀ character ∈ digits, character.isDigit = true) ∧
      magnitude = Nat.ofDigitChars 10 digits 0 := by
  refine ⟨fun read => ?_, fun ⟨given, each, same⟩ => same ▸ readDigits?_of_digits given each⟩
  refine ⟨?_, digits_of_readDigits? read⟩
  rintro rfl
  cases read

theorem numeral_of_readInt? (read : readInt? text = some value) : Numeral text.toList value := by
  unfold readInt? at read
  split at read
  next digits starts =>
    cases found : readDigits? digits with
    | none => simp [found] at read
    | some magnitude =>
        rcases readDigits?_eq_some_iff.mp found with ⟨given, each, rfl⟩
        rw [found] at read
        rw [← Option.some.inj read, starts]
        exact .minus given each
  next digits starts =>
    rcases Option.map_eq_some_iff.mp read with ⟨magnitude, found, rfl⟩
    rcases readDigits?_eq_some_iff.mp found with ⟨given, each, rfl⟩
    rw [starts]
    exact .plus given each
  next =>
    rcases Option.map_eq_some_iff.mp read with ⟨magnitude, found, rfl⟩
    rcases readDigits?_eq_some_iff.mp found with ⟨given, each, rfl⟩
    exact .unsigned given each

theorem readInt?_of_numeral (numeral : Numeral text.toList value) : readInt? text = some value := by
  rcases (⟨_, rfl⟩ : ∃ characters, text.toList = characters) with ⟨characters, starts⟩
  rw [starts] at numeral
  cases numeral with
  | unsigned given each =>
      subst starts
      exact readInt?_of_digits (by simpa using given) each
  | plus given each | minus given each =>
      rw [readInt?, starts]
      simp only [readDigits?_of_digits given each]
      rfl

theorem readInt?_eq_some_iff : readInt? text = some value ↔ Numeral text.toList value :=
  ⟨numeral_of_readInt?, readInt?_of_numeral⟩

theorem Numeral.ne_nil (reads : Numeral numeral value) : numeral ≠ [] := by
  cases reads with
  | unsigned given _ => exact given
  | plus | minus => exact List.cons_ne_nil _ _

theorem Numeral.visible (reads : Numeral numeral value) :
    ∀ character ∈ numeral, Text.isBlank character = false := by
  cases reads with
  | unsigned _ each => exact fun character member => Text.isBlank_of_isDigit (each character member)
  | plus _ each | minus _ each =>
      refine List.forall_mem_cons.mpr ⟨rfl, fun character member => ?_⟩
      exact Text.isBlank_of_isDigit (each character member)

theorem readInt?_trim_eq_some_iff : readInt? (Text.trim text) = some value ↔
    ∃ numeral, Text.Pads text.toList numeral ∧ Numeral numeral value := by
  rw [readInt?_eq_some_iff, Text.trim, String.toList_ofList]
  constructor
  · exact fun reads => ⟨_, Text.pads_trimChars _, reads⟩
  · rintro ⟨numeral, pads, reads⟩
    rwa [pads.trimChars_eq reads.ne_nil reads.visible]

end Decimal

/-! ## Primitives of whole numbers -/

namespace PrimitiveKind

variable {kind : PrimitiveKind} {least greatest : Int} {text : String} {value : Value}

/-- The whole numbers that a primitive holds are those between two ends. -/
inductive Spans : PrimitiveKind → Int → Int → Prop
  | integer : Spans integer (-2 ^ 31) (2 ^ 31 - 1)
  | long : Spans long (-2 ^ 63) (2 ^ 63 - 1)

theorem Spans.read?_eq (spans : kind.Spans least greatest) (text : String) :
    kind.read? text = (Decimal.readIntWithin? least greatest (Text.trim text)).map
      fun number => .long (Int64.ofInt number) := by
  cases spans <;> rfl

theorem Spans.toInt_ofInt (spans : kind.Spans least greatest) {number : Int}
    (low : least ≤ number) (high : number ≤ greatest) : (Int64.ofInt number).toInt = number := by
  cases spans <;> exact Int64.toInt_ofInt_of_le (by omega) (by omega)

theorem Spans.read?_eq_some_iff (spans : kind.Spans least greatest) {number : Int64} :
    kind.read? text = some (.long number) ↔
      Decimal.readIntWithin? least greatest (Text.trim text) = some number.toInt := by
  rw [spans.read?_eq, Option.map_eq_some_iff]
  constructor
  · rintro ⟨value, within, same⟩
    rcases Decimal.readIntWithin?_eq_some_iff.mp within with ⟨-, low, high⟩
    rw [within, ← Value.long.inj same, spans.toInt_ofInt low high]
  · exact fun within => ⟨_, within, by rw [Int64.ofInt_toInt]⟩

theorem Spans.eq_long_of_read? (spans : kind.Spans least greatest)
    (read : kind.read? text = some value) : ∃ number, value = .long number := by
  rw [spans.read?_eq, Option.map_eq_some_iff] at read
  rcases read with ⟨number, -, rfl⟩
  exact ⟨_, rfl⟩

theorem decode_eq_ok_iff : kind.decode (some text) = .ok value ↔ kind.read? text = some value := by
  rw [decode]
  cases kind.read? text <;> simp

theorem decode_of_read?_none (unread : kind.read? text = none) :
    kind.decode (some text) = .error (.undecodable text kind) := by
  rw [decode, unread]

/-- Whole numbers are read from just the texts that hold a numeral in white space whose number
lies in the range of the primitive, as this very number; any other text fails to decode. What is
written for a number in the range is read back. -/
theorem decode_numeral (spans : kind.Spans least greatest) :
    (∀ (text : String) (number : Int64), kind.decode (some text) = .ok (.long number) ↔
      (∃ numeral, Text.Pads text.toList numeral ∧ Decimal.Numeral numeral number.toInt) ∧
      least ≤ number.toInt ∧ number.toInt ≤ greatest) ∧
    (∀ text : String, (∃ number : Int64, kind.decode (some text) = .ok (.long number)) ∨
      kind.decode (some text) = .error (.undecodable text kind)) ∧
    ∀ number : Int64, least ≤ number.toInt → number.toInt ≤ greatest →
      ∃ text, encode? (.long number) = some text ∧
        kind.decode (some text) = .ok (.long number) := by
  have decodes (text : String) (number : Int64) : kind.decode (some text) = .ok (.long number) ↔
      (∃ numeral, Text.Pads text.toList numeral ∧ Decimal.Numeral numeral number.toInt) ∧
      least ≤ number.toInt ∧ number.toInt ≤ greatest := by
    rw [decode_eq_ok_iff, spans.read?_eq_some_iff, ← Decimal.readInt?_trim_eq_some_iff,
      ← Decimal.readIntWithin?_eq_some_iff]
  refine ⟨decodes, fun text => ?_, fun number low high => ?_⟩
  · cases read : kind.read? text with
    | none => exact .inr (decode_of_read?_none read)
    | some value =>
        rcases spans.eq_long_of_read? read with ⟨number, rfl⟩
        exact .inl ⟨number, decode_eq_ok_iff.mpr read⟩
  · refine ⟨Decimal.writeInt number.toInt, rfl, ?_⟩
    rw [decode_eq_ok_iff, spans.read?_eq_some_iff]
    exact Decimal.readIntWithin?_writeInt low high

/-- The least integer of all, written with zeros in front and white space around it, and the number
below it. -/
theorem decode_numeral_least :
    Spans .integer (-2 ^ 31) (2 ^ 31 - 1) ∧
    integer.decode (some "\u3000-002147483648\n") = .ok (.long (-2147483648)) ∧
    integer.decode (some "-2147483649") = .error (.undecodable "-2147483649" .integer) ∧
    ∃ text, encode? (.long (-2147483648)) = some text ∧
      integer.decode (some text) = .ok (.long (-2147483648)) := by
  rcases decode_numeral .integer with ⟨reads, answers, rereads⟩
  have pads : Text.Pads "\u3000-002147483648\n".toList "-002147483648".toList :=
    ⟨['\u3000'], ['\n'], by decide, List.forall_mem_cons.mpr ⟨by decide +kernel,
      List.forall_mem_singleton.mpr (by decide +kernel)⟩⟩
  have numeral : Decimal.Numeral "-002147483648".toList (-2147483648) :=
    .minus (by decide : "002147483648".toList ≠ []) (List.all_eq_true.mp (by decide +kernel))
  refine ⟨.integer, (reads _ _).mpr ⟨⟨_, pads, numeral⟩, by decide, by decide⟩,
    (answers _).resolve_left ?_, rereads _ (by decide) (by decide)⟩
  rintro ⟨number, decoded⟩
  have unread : (integer.read? "-2147483649").isNone = true := by decide +kernel
  rw [decode_eq_ok_iff.mp decoded] at unread
  cases unread

end PrimitiveKind
end DocumentTypes
