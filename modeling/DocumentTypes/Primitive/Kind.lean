/-! # Primitive kinds

The eight kinds of scalar that every other type is built on. -/

namespace DocumentTypes

inductive PrimitiveKind
  | string
  | boolean
  /-- Whole numbers of 32 bits. -/
  | integer
  /-- Whole numbers of 64 bits. -/
  | long
  | double
  /-- An instant; a bare date is its midnight in universal time. -/
  | date
  /-- Bytes; a text stands for its UTF-8 encoding. -/
  | binary
  /-- Any value; a text stands for itself. -/
  | any
  deriving DecidableEq, Repr

namespace PrimitiveKind

/-- All kinds, in the order in which a fresh registry lists them. -/
def all : List PrimitiveKind :=
  [string, boolean, integer, long, double, date, binary, any]

def name : PrimitiveKind → String
  | string => "string"
  | boolean => "boolean"
  | integer => "integer"
  | long => "long"
  | double => "double"
  | date => "date"
  | binary => "binary"
  | any => "any"

def ofName? (text : String) : Option PrimitiveKind := all.find? fun kind => kind.name == text

end PrimitiveKind
end DocumentTypes
