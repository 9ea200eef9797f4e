import DocumentTypes.Unicode.Age
import DocumentTypes.Unicode.Category
import DocumentTypes.Unicode.Property
import DocumentTypes.Unicode.ScriptExtension
import DocumentTypes.Unicode.Segmentation

/-! # Properties by name

Names of properties and of their values are compared loosely: case, blanks,
underscores, hyphens and a leading `is` do not matter. -/

namespace DocumentTypes.Unicode

def dropIs : List Char → List Char
  | first :: second :: rest =>
    if first.toLower == 'i' && second.toLower == 's' then rest else first :: second :: rest
  | characters => characters

def isNamePart (character : Char) : Bool :=
  character != ' ' && character != '_' && character != '-' && character.toNat < 0x80

/-- The form in which names are compared. The name `isc` of a property keeps its
beginning, because the name `c` belongs to a category. -/
def looseName (name : String) : List Char :=
  let characters := name.toList
  let rest := dropIs characters
  let loose := (rest.filter isNamePart).map Char.toLower
  if rest.length < characters.length && loose == ['c'] then ['i', 's', 'c'] else loose

def namedBy (names : List String) (sought : List Char) : Bool :=
  names.any fun name => looseName name == sought

def setNamed? (named : List (List String × CodeSet)) (sought : List Char) : Option CodeSet :=
  (named.find? fun (names, _) => namedBy names sought).map Prod.snd

example : looseName "Is_Greek" = looseName "greek" := by decide +kernel
example : looseName "Is C" = looseName "isc" := by decide +kernel
example : looseName "is-c" ≠ looseName "C" := by decide +kernel

/-! ## Values -/

/-- A category, a group of categories, or one of three sets that are named like
categories. -/
def categoryNamed? (sought : List Char) : Option CodeSet :=
  if sought == looseName "Any" then some .all
  else if sought == looseName "Assigned" then some Category.assigned
  else if sought == looseName "ASCII" then some .ascii
  else
    match (.unassigned :: Category.listed).find? fun category =>
      namedBy category.names sought with
    | some category => some category.members
    | none =>
      (Category.groups.find? fun (names, _) => namedBy names sought).map fun (_, members) =>
        Category.unionOf members

def findScript? (sought : List Char) : Option Script :=
  scripts.find? fun script => namedBy script.names sought

/-- All code points that had been assigned by the named edition. -/
def ageNamed? (sought : List Char) : Option CodeSet :=
  assignedBy? (fun edition => namedBy edition.names sought) .empty editions

/-! ## Properties -/

/-- The names that belong to a category and to a property at once. They mean the
category, or nothing. -/
def isCategoryFirst (sought : List Char) : Bool :=
  [looseName "Cf", looseName "Sc", looseName "LC"].contains sought

/-- A name without a value: a binary property, else a category, else a script. -/
def propertyNamed? (name : String) : Option CodeSet :=
  let sought := looseName name
  let binary := if isCategoryFirst sought then none else setNamed? Property.named sought
  binary <|> categoryNamed? sought <|> (findScript? sought).map Script.members

def propertyValue? (property value : String) : Option CodeSet :=
  let sought := looseName property
  let value := looseName value
  if namedBy ["gc", "General_Category"] sought then categoryNamed? value
  else if namedBy ["sc", "Script"] sought then (findScript? value).map Script.members
  else if namedBy ["scx", "Script_Extensions"] sought then
    (findScript? value).map Script.extensions
  else if namedBy ["age"] sought then ageNamed? value
  else if namedBy ["GCB", "Grapheme_Cluster_Break"] sought then
    setNamed? Segmentation.clusterBreaks value
  else if namedBy ["WB", "Word_Break"] sought then setNamed? Segmentation.wordBreaks value
  else if namedBy ["SB", "Sentence_Break"] sought then
    setNamed? Segmentation.sentenceBreaks value
  else none

/-! ## Words -/

/-- The characters of words: letters and their marks, digits, connectors and
joiners. -/
def wordCharacters : CodeSet :=
  .unionOf [
    Property.alphabetic, nonspacingMarks, spacingMarks, enclosingMarks, decimalDigits,
    connectors, Property.joinControl]

end DocumentTypes.Unicode
