import DocumentTypes.Definition.Basic
import DocumentTypes.Failure
import DocumentTypes.Yaml.Slot

/-! # Reading schema documents -/

namespace DocumentTypes

open Yaml (Slot)
open Yaml.Slot (member)

def SimpleTypeDefinition.slot : Slot SimpleTypeDefinition :=
  Slot.record fun members => do
    let word := Slot.optional (Slot.natural (Nat.pow 2 64 - 1))
    return {
      base := ← member members "base" "" Slot.string
      enumeration := ← member members "enum" none
        (Slot.optional (Slot.items (Slot.data (Yaml.nestingLimit + 1))))
      minLength := ← member members "min_length" none word
      maxLength := ← member members "max_length" none word
      pattern := ← member members "pattern" none (Slot.optional Slot.string)
      min := ← member members "min" none (Slot.optional Slot.real)
      max := ← member members "max" none (Slot.optional Slot.real)
      notNull := ← member members "not_null" false Slot.boolean }

def FieldDefinition.slot : Nat → Slot FieldDefinition
  | 0 => fun _ => failure
  | depth + 1 => Slot.record fun members => do
    let bound := Slot.optional (Slot.integer (-Int.pow 2 31) (Int.pow 2 31 - 1))
    return {
      typeName := ← member members "type" none (Slot.optional Slot.string)
      fields := ← member members "fields" [] (Slot.table (FieldDefinition.slot depth))
      isList := ← member members "list" false Slot.boolean
      itemName := ← member members "item_name" none (Slot.optional Slot.string)
      default := ← member members "default" none
        (Slot.optional (Slot.data (Yaml.nestingLimit + 1)))
      nillable := ← member members "nillable" false Slot.boolean
      constant := ← member members "constant" false Slot.boolean
      minOccurs := ← member members "min_occurs" none bound
      maxOccurs := ← member members "max_occurs" none bound }

def SchemaDefinition.slot : Slot SchemaDefinition :=
  Slot.record fun members => do
    return {
      qualifier := ← member members "prefix" none (Slot.optional Slot.string)
      uri := ← member members "uri" none (Slot.optional Slot.string)
      types := ← member members "types" [] (Slot.table SimpleTypeDefinition.slot)
      fields := ← member members "fields" []
        (Slot.table (FieldDefinition.slot Yaml.nestingLimit)) }

def SchemaDocument.slot : Slot SchemaDocument :=
  Slot.record fun members => do
    return {
      schemas := ← member members "schemas" [] (Slot.table SchemaDefinition.slot)
      facets := ← member members "facets" [] (Slot.table (Slot.items Slot.string)) }

def SchemaDocument.ofText (text : String) : Except Failure SchemaDocument :=
  match Slot.readDocument? SchemaDocument.slot text with
  | some document => .ok document
  | none => .error .malformedDocument

end DocumentTypes
