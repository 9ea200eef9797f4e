/-! # References

Types point at each other through references, which are resolved on every access.
So a type may be built before the types that it refers to, and a type that is
registered anew is seen by every reference to its name. A reference that finds
nothing means that nothing is there; it is no error by itself. -/

namespace DocumentTypes

/-- The name of a type: that of its schema and its own within the schema. -/
structure TypeName where
  schema : String
  name : String
  deriving DecidableEq, Repr, Inhabited

/-- Which of all types ever built is meant. Two types may have the same name. -/
structure TypeId where
  position : Nat
  deriving DecidableEq, Repr, Inhabited

/-- Which of all registries is meant, counted from the first. -/
structure RegistryId where
  number : Nat
  deriving DecidableEq, Repr, Inhabited

inductive TypeRef
  | null
  /-- The type of this name in a registry. -/
  | named (registry : RegistryId) (target : TypeName)
  /-- The schema of this name in a registry. -/
  | schema (registry : RegistryId) (name : String)
  /-- A type itself, which the reference keeps alive. -/
  | direct (type : TypeId) (target : TypeName)
  /-- Back from a field to the type that declares it, as long as that is alive. -/
  | owner (type : TypeId) (target : TypeName)
  deriving DecidableEq, Repr, Inhabited

namespace TypeRef

def isNull : TypeRef → Bool
  | null => true
  | _ => false

/-- The name that a reference aims at. A schema is named like the type in it. -/
def target? : TypeRef → Option TypeName
  | null => none
  | named _ target => some target
  | schema _ name => some ⟨name, name⟩
  | direct _ target => some target
  | owner _ target => some target

def text (reference : TypeRef) : String :=
  match reference.target? with
  | some target => "TypeRef(" ++ target.schema ++ ":" ++ target.name ++ ")"
  | none => "TypeRef(null)"

def held : TypeRef → List TypeId
  | direct type _ => [type]
  | _ => []

end TypeRef
end DocumentTypes
