import DocumentTypes.Proofs.ListTexts
import DocumentTypes.Proofs.Literals

/-! # Enumerations

An enumeration lists texts, and a value satisfies it if its own text is listed. A type reads many
texts as one value, but only one of them is the text of this value: the value satisfies the
enumeration just if that one is listed, whatever other texts for it are. -/

namespace DocumentTypes

variable {store : Store} {id : TypeId} {kind : PrimitiveKind} {allowed : List String}
  {text : String} {value : Value}

theorem Constraint.accepts_oneOf : (oneOf allowed).accepts value = true ↔
    ∃ literal ∈ allowed, literal? value = some literal := by
  rw [accepts, Option.any_eq_true]
  simp only [List.contains_iff_mem]
  exact exists_congr fun _ => and_comm

theorem PrimitiveKind.accepts_oneOf_iff (read : kind.read? text = some value) :
    (Constraint.oneOf allowed).accepts value = true ↔
      ∃ literal ∈ allowed, kind.IsLiteral literal ∧ kind.read? literal = some value := by
  rw [Constraint.accepts_oneOf]
  refine exists_congr fun literal => and_congr_right fun _ => ?_
  exact ⟨isLiteral_of_literal? read, fun ⟨isLiteral, again⟩ => literal?_of_read? isLiteral again⟩

/-! ## Enumerated types -/

namespace Store

/-- A simple type with an enumeration, which reads texts as a primitive of the given kind does. -/
structure Enumerates (store : Store) (id : TypeId) (allowed : List String)
    (kind : PrimitiveKind) : Prop where
  listed : ∃ simple, store.simpleAt? id = some simple ∧ .oneOf allowed ∈ simple.constraints
  codec : store.codec? id = some kind

theorem Enumerates.of_any (listed : ((store.simpleAt? id).any fun simple =>
      simple.constraints.any fun
        | .oneOf literals => literals == allowed
        | _ => false) = true)
    (codec : store.codec? id = some kind) : store.Enumerates id allowed kind := by
  refine ⟨?_, codec⟩
  rcases (Option.any_eq_true _ _).mp listed with ⟨simple, found, some⟩
  rcases List.any_eq_true.mp some with ⟨constraint, member, same⟩
  split at same
  · exact ⟨simple, found, beq_iff_eq.mp same ▸ member⟩
  · cases same

theorem Enumerates.scalar (enumerates : store.Enumerates id allowed kind) : store.Scalar id := by
  rcases enumerates.listed with ⟨simple, found, -⟩
  rcases kind_of_simpleAt? found with ⟨type, typeFound, isSimple⟩
  exact ⟨type, typeFound, .inr ⟨simple, isSimple⟩⟩

theorem Enumerates.decode_eq_ok_iff (enumerates : store.Enumerates id allowed kind) :
    ((Attempt.decode id (some text)).run.run store).1 = .ok value ↔
      kind.read? text = some value := by
  rw [enumerates.scalar.run_decode]
  exact readAs_eq_ok_iff enumerates.codec

end Store

namespace Attempt

/-- A listed text that is written as a value of the kind satisfies the enumeration when it is read,
and also when it is the default of a field. Any value that is read satisfies the enumeration just if
such a text for it is listed. -/
theorem accepts_of_decode (enumerates : store.Enumerates id allowed kind) :
    (∀ literal ∈ allowed, kind.IsLiteral literal → ∀ value,
      ((decode id (some literal)).run.run store).1 = .ok value →
        (Constraint.oneOf allowed).accepts value = true) ∧
    (∀ field : Field, store.resolve field.valueType = some id →
      ∀ literal ∈ allowed, field.defaultText = some literal → kind.IsLiteral literal →
        ∀ value, ((defaultOf field).run.run store).1 = .ok value →
          (Constraint.oneOf allowed).accepts value = true) ∧
    ∀ text value, ((decode id (some text)).run.run store).1 = .ok value →
      ((Constraint.oneOf allowed).accepts value = true ↔
        ∃ literal ∈ allowed, kind.IsLiteral literal ∧
          ((decode id (some literal)).run.run store).1 = .ok value) := by
  have accepted : ∀ literal ∈ allowed, kind.IsLiteral literal → ∀ value,
      ((decode id (some literal)).run.run store).1 = .ok value →
        (Constraint.oneOf allowed).accepts value = true := by
    intro literal listed isLiteral value decoded
    have read := enumerates.decode_eq_ok_iff.mp decoded
    exact (PrimitiveKind.accepts_oneOf_iff read).mpr ⟨literal, listed, isLiteral, read⟩
  refine ⟨accepted, ?_, ?_⟩
  · intro field resolved literal listed given isLiteral value decoded
    rw [run_defaultOf resolved given] at decoded
    exact accepted literal listed isLiteral value decoded
  · intro text value decoded
    simp only [enumerates.decode_eq_ok_iff]
    exact PrimitiveKind.accepts_oneOf_iff (enumerates.decode_eq_ok_iff.mp decoded)

/-- One in ten, as it is written and with a zero too many. -/
theorem accepts_of_decode_tenth :
    let rate : Blueprint := {
      name := ⟨"dc", "rate"⟩
      base := .direct ⟨4⟩ ⟨primitiveSchema, "double"⟩
      body := .simple [.oneOf ["0.1", "2.50"]] }
    let store := Store.initial.after [.operate (.build rate)]
    let field : Field := {
      owner := ⟨8⟩
      serial := 0
      ownerName := ⟨"dc", "offer"⟩
      name := ⟨"dc", "rate"⟩
      valueType := .direct ⟨8⟩ ⟨"dc", "rate"⟩
      defaultText := some "0.1"
      flags := 0
      minOccurs := 1
      maxOccurs := 1 }
    let tenth : Value := .double ⟨0x3fb999999999999a⟩
    store.Derives ⟨8⟩ [⟨8⟩] ⟨4⟩ ∧ store.Enumerates ⟨8⟩ ["0.1", "2.50"] .double ∧
    PrimitiveKind.double.IsLiteral "0.1" ∧
    ((decode ⟨8⟩ (some "0.1")).run.run store).1 = .ok tenth ∧
    (Constraint.oneOf ["0.1", "2.50"]).accepts tenth = true ∧
    ((defaultOf field).run.run store).1 = .ok tenth ∧
    ∃ literal ∈ ["0.1", "2.50"], PrimitiveKind.double.IsLiteral literal ∧
      ((decode ⟨8⟩ (some literal)).run.run store).1 = .ok tenth := by
  intro rate store field tenth
  have isDouble : store.primitiveAt? ⟨4⟩ = some .double := by decide +kernel
  have derives : store.Derives ⟨8⟩ [⟨8⟩] ⟨4⟩ :=
    .of_base (by decide +kernel) (by decide +kernel) (by decide +kernel) (.primitive isDouble)
  have enumerates : store.Enumerates ⟨8⟩ ["0.1", "2.50"] .double :=
    .of_any (by decide +kernel) (Store.codec?_of_derives derives isDouble (by decide +kernel))
  have isLiteral : PrimitiveKind.double.IsLiteral "0.1" :=
    ⟨⟨0x3fb999999999999a⟩, by decide +kernel⟩
  have read : PrimitiveKind.double.read? "0.1" = some tenth := by
    have number : Decimal.readReal? (Text.trim "0.1") = some ⟨0x3fb999999999999a⟩ := by
      decide +kernel
    rw [PrimitiveKind.read?, number]
    rfl
  have decoded : ((decode ⟨8⟩ (some "0.1")).run.run store).1 = .ok tenth :=
    enumerates.decode_eq_ok_iff.mpr read
  have resolved : store.resolve field.valueType = some ⟨8⟩ := by decide +kernel
  have default : ((defaultOf field).run.run store).1 = .ok tenth := by
    rw [run_defaultOf resolved rfl, decoded]
  rcases accepts_of_decode enumerates with ⟨-, defaults, listed⟩
  have accepted := defaults field resolved "0.1" List.mem_cons_self rfl isLiteral tenth default
  exact ⟨derives, enumerates, isLiteral, decoded, accepted, default,
    (listed "0.1" tenth decoded).mp accepted⟩

/-- A whole number among the literals is kept with a point and a zero, and its value has a text
without them. So the value is rejected by its own enumeration. -/
theorem rejects_of_decode :
    let literals : List Binary64 := [⟨0x3ff0000000000000⟩, ⟨0x4004000000000000⟩]
    let rate : SimpleTypeDefinition := {
      base := "double"
      enumeration := some (literals.map .real) }
    let store := Store.initial.after
      [.operate (.load { schemas := [("s", { types := [("rate", rate)] })] })]
    let one : Value := .double ⟨0x3ff0000000000000⟩
    store.resolve (.named Store.initial.registryId ⟨"s", "rate"⟩) = some ⟨8⟩ ∧
    store.Enumerates ⟨8⟩ ["1.0", "2.5"] .double ∧
    ((decode ⟨8⟩ (some "1.0")).run.run store).1 = .ok one ∧
    (Constraint.oneOf ["1.0", "2.5"]).accepts one = false ∧ store.validate ⟨8⟩ one = false := by
  intro literals rate store one
  have enumerates : store.Enumerates ⟨8⟩ ["1.0", "2.5"] .double :=
    .of_any (by decide +kernel) (by decide +kernel)
  have read : PrimitiveKind.double.read? "1.0" = some one := by
    have number : Decimal.readReal? (Text.trim "1.0") = some ⟨0x3ff0000000000000⟩ := by
      decide +kernel
    rw [PrimitiveKind.read?, number]
    rfl
  exact ⟨by decide +kernel, enumerates, enumerates.decode_eq_ok_iff.mpr read, by decide +kernel,
    by decide +kernel⟩

end Attempt
end DocumentTypes
