import DocumentTypes.Yaml.Data

/-! # Slots

A slot reads a node as a value of a known type. Aliases are followed as they are
met, so a node may be read many times; the depth of collections and the number of
followed aliases are limited. -/

namespace DocumentTypes.Yaml

def nestingLimit : Nat := 128

structure Surroundings where
  anchored : List (Nat × Node)
  aliasLimit : Nat
  /-- How many more collections may be entered. -/
  depth : Nat

/-- A reading inside a document, which counts the aliases it follows. -/
abbrev Expansion := ReaderT Surroundings (StateT Nat Option)

abbrev Slot (α : Type) := Node → Expansion α

namespace Slot

/-- The node that a node stands for. An anchor number that was given more than once
means the node that began last. -/
def resolve : Slot Node
  | .reference anchor => do
    let surroundings ← read
    let followed := (← get) + 1
    set followed
    if surroundings.aliasLimit < followed then failure
    else (surroundings.anchored.reverse.find? (·.1 == anchor)).map Prod.snd
  | node => return node

def enter (inside : Expansion α) : Expansion α := do
  match (← read).depth with
  | 0 => failure
  | depth + 1 => withReader (fun surroundings => { surroundings with depth }) inside

/-! ## Scalars -/

def string : Slot String := fun node => do
  match ← resolve node with
  | .scalar _ _ text => return text
  | _ => failure

/-- A plain scalar, or a literal one that carries the standard tag of its type. -/
def typed (type : String) (interpret : String → Option α) : Slot α := fun node => do
  match ← resolve node with
  | .scalar properties style text =>
    let tagged := style = .literal && properties.tag == some (standardTag type)
    if style = .plain || tagged then interpret text
    else failure
  | _ => failure

def boolean : Slot Bool := typed "bool" booleanWord?

def integer (least greatest : Int) : Slot Int :=
  typed "int" fun text =>
    (integer? text).filter fun value => least ≤ value && value ≤ greatest

def natural (greatest : Nat) : Slot Nat :=
  typed "int" fun text => (natural? text).filter (· ≤ greatest)

def real : Slot Binary64 := typed "float" real?

/-! ## Optional values -/

/-- Whether a node is an absent value: plain, and empty or a word for null. The
standard tag of null demands such a word. -/
def isAbsent? : Node → Option Bool
  | .scalar properties .plain text =>
    match properties.tag with
    | none => some (text = "" || isNullWord text)
    | some tag =>
      if tag = standardTag "null" then if isNullWord text then some true else none
      else some false
  | _ => some false

def optional (slot : Slot α) : Slot (Option α) := fun node => do
  let node ← resolve node
  if ← isAbsent? node then return none else return some (← slot node)

/-! ## Collections

A plain scalar without text stands for an empty collection. -/

def items (slot : Slot α) : Slot (List α) := fun node => do
  match ← resolve node with
  | .sequence _ items => enter (items.mapM slot)
  | .scalar _ .plain "" => return []
  | _ => failure

/-- A mapping under names. A repeated name replaces the value in its place. -/
def table (slot : Slot α) : Slot (List (String × α)) := fun node => do
  match ← resolve node with
  | .mapping _ entries =>
    let entries ← enter (entries.mapM fun (key, value) => do
      return (← string key, ← slot value))
    return (Table.ofList entries).entries
  | .scalar _ .plain "" => return []
  | _ => failure

/-- The members of a record, under their names as they are written. -/
def record (build : List (String × Node) → Expansion α) : Slot α := fun node => do
  match ← resolve node with
  | .mapping _ entries =>
    enter do build (← entries.mapM fun (key, value) => return (← string key, value))
  | .scalar _ .plain "" => build []
  | _ => failure

/-- A member that may be missing but not repeated. Members that nobody asks for are
ignored. -/
def member (members : List (String × Node)) (name : String) (missing : α) (slot : Slot α) :
    Expansion α :=
  match members.filter (·.1 == name) with
  | [] => return missing
  | [(_, node)] => slot node
  | _ => failure

/-! ## Data -/

def distinctEntries? (entries : List (Data × Data)) : Option (List (Data × Data)) :=
  entries.foldlM (fun kept entry =>
    if kept.any fun other => other.1 == entry.1 then none else some (kept ++ [entry])) []

/-- A node of any type. A tag of the document's own is kept beside the content,
which is then read as if it had none. -/
def data : Nat → Slot Data
  | 0 => fun _ => failure
  | fuel + 1 => fun node => do
    let node ← resolve node
    let content (tag : Option TagBytes) : Expansion Data := match node with
      | .scalar _ style text => Data.ofScalar? tag style text
      | .sequence _ items => do return .sequence (← enter (items.mapM (data fuel)))
      | .mapping _ entries => do
        let entries ← enter (entries.mapM fun (key, value) => do
          return (← data fuel key, ← data fuel value))
        return .mapping (← distinctEntries? entries)
      | .reference _ => failure
    match node.properties.tag.bind Data.ownTag? with
    | some name => return .tagged name (← content none)
    | none => content node.properties.tag

/-! ## Documents -/

/-- Read the only document of a stream. Aliases may be followed a hundred times for
every mark of the document. -/
def readDocument? (slot : Slot α) (text : String) : Option α := do
  let root ← onlyDocument? text
  let surroundings := {
    anchored := root.anchored, aliasLimit := root.weight * 100, depth := nestingLimit }
  let (value, _) ← ((slot root).run surroundings).run 0
  some value

end Slot
end DocumentTypes.Yaml
