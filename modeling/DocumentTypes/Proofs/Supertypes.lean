import DocumentTypes.Proofs.ChainEnds
import DocumentTypes.Proofs.Filing

/-! # Supertypes

Whether a value is accepted is asked along the chain of bases. Null is the exception: the
type itself decides about it, and no base is asked. Neither is one behind a type that is
neither simple nor primitive, because the question ends there. -/

namespace DocumentTypes.Store

variable {store : Store} {id sub super base root : TypeId} {path : List TypeId} {value : Value}

def isSimpleAt (store : Store) (id : TypeId) : Bool := (store.type? id).any DocumentType.isSimple

def isNotNullAt (store : Store) (id : TypeId) : Bool := (store.type? id).any DocumentType.isNotNull

/-- What the constraints of a simple type say by themselves. -/
def admitsAt (store : Store) (id : TypeId) (value : Value) : Bool :=
  (store.simpleAt? id).any fun simple => simple.admits value

/-- The types on a way before it comes to one of them. -/
def before (path : List TypeId) (id : TypeId) : List TypeId := path.takeWhile (· != id)

theorem before_self (path : List TypeId) (id : TypeId) : before (id :: path) id = [] := by
  rw [before, List.takeWhile_cons_of_neg (by simp)]

theorem before_cons (path : List TypeId) (different : sub ≠ super) :
    before (sub :: path) super = sub :: before path super := by
  rw [before, List.takeWhile_cons_of_pos (by simpa using different), ← before]

/-! ## One step -/

theorem validate_of_isNull (simple : store.isSimpleAt id = true) (null : value.isNull = true) :
    store.validate id value = !store.isNotNullAt id := by
  rcases (Option.any_eq_true _ _).mp simple with ⟨⟨name, reference, flags, kind⟩, found, simple⟩
  rw [isNotNullAt, validate, accepts, found]
  cases kind with
  | primitive | simple => exact if_pos null
  | complex | composite | list => cases simple

theorem validate_of_base? (ends : Ends store.base? base path root)
    (simple : (store.simpleAt? sub).isSome = true) (step : store.base? sub = some base)
    (present : value.isNull = false) :
    store.validate sub value = (store.admitsAt sub value && store.validate base value) := by
  rcases Option.isSome_iff_exists.mp simple with ⟨constraints, simpleFound⟩
  rcases kind_of_simpleAt? simpleFound with ⟨type, found, kind⟩
  have short : (sub :: path).length ≤ store.types.size :=
    length_le_of_ends (base?_eq_along store ▸ ends.on step)
  have rest : store.accepts store.types.size base value = store.validate base value :=
    accepts_of_ends ends value short (Nat.lt_succ_of_lt short)
  rw [base?, found, Option.bind_some] at step
  rw [admitsAt, simpleFound, Option.any_some, ← rest, validate, accepts, found]
  simp only [kind, present, step, Option.all_some, Bool.false_eq_true, if_false]

/-! ## The whole way -/

theorem validate_through (ends : Ends store.base? sub path root) (reached : super ∈ path ++ [root])
    (simple : ∀ below ∈ before path super, (store.simpleAt? below).isSome = true)
    (present : value.isNull = false) :
    store.validate sub value =
      ((before path super).all (store.admitsAt · value) && store.validate super value) := by
  induction ends with
  | here =>
      cases List.mem_singleton.mp reached
      rfl
  | @on place base root path step rest induction =>
      by_cases same : place = super
      · rw [same, before_self, List.all_nil, Bool.true_and]
      · have later := (List.mem_cons.mp reached).resolve_left (Ne.symm same)
        rw [before_cons path same] at simple ⊢
        have here := simple place List.mem_cons_self
        have above := induction later fun below member =>
          simple below (List.mem_cons_of_mem place member)
        rw [validate_of_base? rest here step present, above, List.all_cons, Bool.and_assoc]

/-- A type accepts no more than its supertypes, apart from null, about which each type
decides by its own flag, and as far as the way to the supertype leads through simple types,
which are the only ones that ask their base. -/
theorem validate_supertype (ends : Ends store.base? sub path root)
    (derives : store.isSuperTypeOf super sub = true) (subSimple : store.isSimpleAt sub = true)
    (superSimple : store.isSimpleAt super = true) (value : Value) :
    (value.isNull = true → store.validate sub value = !store.isNotNullAt sub ∧
      store.validate super value = !store.isNotNullAt super) ∧
    (value.isNull = false →
      (∀ below ∈ before path super, (store.simpleAt? below).isSome = true) →
      store.validate sub value =
        ((before path super).all (store.admitsAt · value) && store.validate super value)) ∧
    (store.validate sub value = true →
      (value.isNull = true → store.isNotNullAt super = true → store.isNotNullAt sub = true) →
      (value.isNull = false →
        ∀ below ∈ before path super, (store.simpleAt? below).isSome = true) →
      store.validate super value = true) := by
  have reached := (isSuperTypeOf_of_ends ends super).mp derives
  refine ⟨fun null => ⟨validate_of_isNull subSimple null, validate_of_isNull superSimple null⟩,
    fun present simple => validate_through ends reached simple present,
    fun accepted flagged simple => ?_⟩
  cases null : value.isNull with
  | true =>
      rw [validate_of_isNull subSimple null] at accepted
      rw [validate_of_isNull superSimple null]
      cases forbidden : store.isNotNullAt super with
      | false => rfl
      | true =>
          rw [flagged null forbidden] at accepted
          cases accepted
  | false =>
      rw [validate_through ends reached (simple null) null, Bool.and_eq_true] at accepted
      exact accepted.2

/-- Two steps down from a type that limits the length of texts. -/
theorem validate_supertype_of_marks :
    let derived (base : TypeRef) (constraints : List Constraint) : Operation :=
      .build ⟨⟨"s", "mark"⟩, base, DocumentType.notNullFlag, .simple constraints⟩
    let store := following [
      derived (.named Store.initial.registryId ⟨"system", "string"⟩) [.length ⟨some 1, some 3⟩],
      derived (.direct ⟨8⟩ ⟨"s", "mark"⟩) [.oneOf ["A", "B", "none"]],
      derived (.direct ⟨9⟩ ⟨"s", "mark"⟩) []]
    store.isSuperTypeOf ⟨8⟩ ⟨10⟩ = true ∧ before [⟨10⟩, ⟨9⟩, ⟨8⟩] ⟨8⟩ = [⟨10⟩, ⟨9⟩] ∧
    store.validate ⟨10⟩ (.string "A") = true ∧ store.validate ⟨8⟩ (.string "A") = true ∧
    store.validate ⟨8⟩ (.string "C") = true ∧ store.validate ⟨10⟩ (.string "C") = false ∧
    store.validate ⟨10⟩ .null = false := by
  intro derived store
  have ends : Ends store.base? ⟨10⟩ [⟨10⟩, ⟨9⟩, ⟨8⟩] ⟨0⟩ :=
    .on (by decide +kernel) (.on (by decide +kernel) (.on (by decide +kernel)
      (.here (by decide +kernel))))
  have derives : store.isSuperTypeOf ⟨8⟩ ⟨10⟩ = true := by decide +kernel
  have simple : ∀ below ∈ before [⟨10⟩, ⟨9⟩, ⟨8⟩] ⟨8⟩, (store.simpleAt? below).isSome = true := by
    decide +kernel
  have shown := validate_supertype ends derives (by decide +kernel) (by decide +kernel)
  have accepted : store.validate ⟨10⟩ (.string "A") = true := by decide +kernel
  have supertype := (shown (.string "A")).2.2 accepted (fun null => by cases null) fun _ => simple
  have rejected := (shown (.string "C")).2.1 rfl simple
  refine ⟨derives, by decide, accepted, supertype, by decide +kernel, ?_, ?_⟩
  · rw [rejected]
    decide +kernel
  · rw [((shown .null).1 rfl).1]
    decide +kernel

/-- A type without the flag accepts null over one that forbids it. And a simple type over a
complex one accepts texts that are too long for the base of the complex type. -/
theorem validate_beyond_supertype :
    let simple (base : TypeRef) (flags : UInt16) (constraints : List Constraint) : Operation :=
      .build ⟨⟨"s", "t"⟩, base, flags, .simple constraints⟩
    let named (name : String) : TypeRef := .named Store.initial.registryId ⟨"system", name⟩
    let store := following [
      simple (named "long") DocumentType.notNullFlag [], simple (.direct ⟨8⟩ ⟨"s", "t"⟩) 0 [],
      simple (named "string") 0 [.length ⟨none, some 2⟩],
      .build ⟨⟨"s", "t"⟩, .direct ⟨10⟩ ⟨"s", "t"⟩, 0, .complex .none none []⟩,
      simple (.direct ⟨11⟩ ⟨"s", "t"⟩) 0 []]
    (∀ id : TypeId, id ∈ [⟨8⟩, ⟨9⟩, ⟨10⟩, ⟨12⟩] → store.isSimpleAt id = true) ∧
    (Ends store.base? ⟨9⟩ [⟨9⟩, ⟨8⟩] ⟨3⟩ ∧ store.isSuperTypeOf ⟨8⟩ ⟨9⟩ = true ∧
      store.validate ⟨9⟩ .null = true ∧ store.validate ⟨8⟩ .null = false) ∧
    (Ends store.base? ⟨12⟩ [⟨12⟩, ⟨11⟩, ⟨10⟩] ⟨0⟩ ∧ store.isSuperTypeOf ⟨10⟩ ⟨12⟩ = true ∧
      store.validate ⟨12⟩ (.string "abc") = true ∧
      store.validate ⟨10⟩ (.string "abc") = false) := by
  intro simple named store
  have overLong : Ends store.base? ⟨9⟩ [⟨9⟩, ⟨8⟩] ⟨3⟩ :=
    .on (by decide +kernel) (.on (by decide +kernel) (.here (by decide +kernel)))
  have overText : Ends store.base? ⟨12⟩ [⟨12⟩, ⟨11⟩, ⟨10⟩] ⟨0⟩ :=
    .on (by decide +kernel) (.on (by decide +kernel) (.on (by decide +kernel)
      (.here (by decide +kernel))))
  refine ⟨by decide +kernel, ⟨overLong, ?_⟩, overText, ?_⟩
  · decide +kernel
  · decide +kernel

end DocumentTypes.Store
