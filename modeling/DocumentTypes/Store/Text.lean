import DocumentTypes.Path
import DocumentTypes.Store.Ancestry

/-! # Text of values

A simple type reads and writes text through its primitive. The text of a list is
the texts of its items, one blank apart. Structured types have no text: reading
gives null, and writing gives nothing. -/

namespace DocumentTypes

def itemSeparator : Char := ' '

def splitItems (text : String) : List String := Path.splitOn itemSeparator text

def joinItems (items : List String) : String := (String.singleton itemSeparator).intercalate items

namespace Attempt

/-- Read a text as a value of a type, through lists nested at most to the given
depth. No text stands for null. -/
def decodeWithin : Nat → TypeId → Option String → Attempt Value
  | 0, _, _ => return .null
  | depth + 1, id, text => do
    match (← Action.type? id).map DocumentType.kind with
    | some (.primitive _) | some (.simple _) =>
      match ← Action.codecOf id with
      | some codec => codec.decode text
      | none => return .null
    | some (.list list) =>
      match text, ← Action.resolve list.item.valueType with
      | some text, some item =>
        let items ← (splitItems text).mapM fun part =>
          decodeWithin depth item (some part)
        return .array items
      | _, _ => return .null
    | _ => return .null

def decode (id : TypeId) (text : Option String) : Attempt Value := do
  decodeWithin ((← get).types.size + 1) id text

def defaultOf (field : Field) : Attempt Value := do
  match field.defaultText, ← Action.resolve field.valueType with
  | some text, some valueType => decode valueType (some text)
  | _, _ => return .null

end Attempt

namespace Action

/-- The text of a value, if it has one, where items are written in the given way. Only
sequences have items. -/
def encodeWith (encodeItems? : Option (TypeId → Action (Option (List String)))) (value : Value)
    (id : TypeId) : Action (Option String) := do
  match (← type? id).map DocumentType.kind with
  | some (.primitive _) | some (.simple _) =>
    return (← codecOf id).bind fun _ => PrimitiveKind.encode? value
  | some (.list list) =>
    match encodeItems?, ← resolve list.item.valueType with
    | some encodeItems, some item => return (← encodeItems item).map joinItems
    | _, _ => return none
  | _ => return none

mutual

def encode : Value → TypeId → Action (Option String)
  | .list items, id => encodeWith (some (encodeItems items)) (.list items) id
  | .array items, id => encodeWith (some (encodeItems items)) (.array items) id
  | value, id => encodeWith none value id
termination_by structural value => value

/-- The texts of all items, or nothing as soon as one has none. -/
def encodeItems : List Value → TypeId → Action (Option (List String))
  | [], _ => return some []
  | item :: rest, id => do
    match ← encode item id with
    | none => return none
    | some text => return (← encodeItems rest id).map (text :: ·)
termination_by structural items => items

end

end Action
end DocumentTypes
