import DocumentTypes.Text.Order

/-! # Qualified names

A field is named by a local name and the short qualifier of its schema's
namespace; an empty qualifier means none. -/

namespace DocumentTypes

/-- A schema's namespace: a URI and the qualifier of the names declared in it. -/
structure Namespace where
  uri : String
  qualifier : String
  deriving DecidableEq, Repr, Inhabited

namespace Namespace

def none : Namespace := ⟨"", ""⟩

def hasQualifier (space : Namespace) : Bool := space.qualifier != ""

end Namespace

/-! ## Splitting -/

/-- The text before the first separator and the text after it. -/
def splitAtFirst? (separator : Char) : List Char → Option (List Char × List Char)
  | [] => none
  | character :: rest =>
    if character = separator then some ([], rest)
    else (splitAtFirst? separator rest).map fun (front, back) => (character :: front, back)

def splitOnce? (separator : Char) (text : String) : Option (String × String) :=
  (splitAtFirst? separator text.toList).map fun (front, back) =>
    (String.ofList front, String.ofList back)

/-! ## Names -/

structure QualifiedName where
  qualifier : String
  localName : String
  deriving DecidableEq, Repr, Inhabited

namespace QualifiedName

/-- Read `qualifier:local`, split at the first colon, or a bare local name, which
takes the default qualifier. -/
def parse (text : String) (defaultQualifier : String) : QualifiedName :=
  match splitOnce? ':' text with
  | some (qualifier, localName) => ⟨qualifier, localName⟩
  | none => ⟨defaultQualifier, text⟩

def text (name : QualifiedName) : String :=
  if name.qualifier = "" then name.localName else name.qualifier ++ ":" ++ name.localName

/-- Names are ordered by qualifier, then by local name, code point by code point. -/
def atMost (left right : QualifiedName) : Bool :=
  left.qualifier < right.qualifier ||
    (left.qualifier == right.qualifier && Text.atMost left.localName right.localName)

def sort (names : List QualifiedName) : List QualifiedName := names.mergeSort atMost

example : parse "dc:a:b" "x" = ⟨"dc", "a:b"⟩ := by decide +kernel
example : parse "title" "dc" = ⟨"dc", "title"⟩ := by decide +kernel
example : (parse ":title" "dc").text = "title" := by decide +kernel

end QualifiedName
end DocumentTypes
