import DocumentTypes.Name
import DocumentTypes.Schema.Reference

/-! # Fields

A field is a named, typed slot of a complex type, or the item slot of a list. It is
declared by one type and visible on the types derived from that. A field never
changes: declaring its name anew makes another field. -/

namespace DocumentTypes

def unbounded : Int := -1

/-- A field before a type has declared it. Its name may lack a qualifier. -/
structure FieldDeclaration where
  name : String
  valueType : TypeRef
  defaultText : Option String := none
  flags : UInt16 := 0
  minOccurs : Int := 1
  maxOccurs : Int := 1
  deriving Inhabited

/-- Each field is told from all others by the type that declared it and its serial
number among the fields that this type ever declared. -/
structure Field where
  owner : TypeId
  serial : Nat
  ownerName : TypeName
  name : QualifiedName
  valueType : TypeRef
  defaultText : Option String
  flags : UInt16
  minOccurs : Int
  maxOccurs : Int
  deriving DecidableEq, Inhabited

namespace Field

def localName (field : Field) : String := field.name.localName

def declaring (field : Field) : TypeRef := .owner field.owner field.ownerName

def isSame (left right : Field) : Bool :=
  left.owner == right.owner && left.serial == right.serial

/-! ## Flags -/

def nillableFlag : UInt16 := 1
def constantFlag : UInt16 := 2

def isNillable (field : Field) : Bool := field.flags &&& nillableFlag != 0

def isConstant (field : Field) : Bool := field.flags &&& constantFlag != 0

def held (field : Field) : List TypeId := field.valueType.held

end Field
end DocumentTypes
