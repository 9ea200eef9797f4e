import DocumentTypes.Proofs.ChainEnds
import DocumentTypes.Proofs.Filing

/-! # Validation

A simple type holds a value against its own constraints and then defers to the type that it
derives from. A value is accepted just if nobody on this way objects. It does not matter who
would object first. -/

namespace DocumentTypes

namespace SimpleType

variable {simple : SimpleType} {value : Value}

theorem admits_iff : simple.admits value = true ↔
    ∀ constraint ∈ simple.constraints, constraint.accepts value = true := by
  simp [admits, failing?, List.find?_eq_none]

theorem admits_congr {constraints : List Constraint}
    (same : ∀ constraint, constraint ∈ constraints ↔ constraint ∈ simple.constraints)
    (value : Value) : ({ simple with constraints } : SimpleType).admits value =
      simple.admits value := by
  rw [Bool.eq_iff_iff, admits_iff, admits_iff]
  exact forall_congr' fun constraint => imp_congr_left (same constraint)

end SimpleType

namespace Store

variable {store : Store} {id other last root place : TypeId} {path : List TypeId} {value : Value}
  {simple : SimpleType} {count bound : Nat}

/-! ## Deferring -/

/-- The type that a simple type defers to about values that its own constraints admit. -/
def defersTo? (store : Store) : TypeId → Option TypeId :=
  store.along fun type => type.simple?.map fun _ => type.base

theorem base?_of_defersTo? (step : store.defersTo? id = some other) :
    store.base? id = some other := by
  rcases Option.bind_eq_some_iff.mp step with ⟨type, found, onward⟩
  rcases Option.bind_eq_some_iff.mp onward with ⟨reference, isSimple, resolved⟩
  rcases Option.map_eq_some_iff.mp isSimple with ⟨_, -, rfl⟩
  rw [base?, found]
  exact resolved

theorem defersTo?_of_other (notSimple : store.simpleAt? id = none) :
    store.defersTo? id = none := by
  rw [defersTo?, along]
  cases found : store.type? id with
  | none => rfl
  | some type =>
      rw [simpleAt?, found, Option.bind_some] at notSimple
      rw [Option.bind_some, notSimple]
      rfl

theorem exists_ends_defersTo (ends : Ends store.base? id path root) :
    ∃ deferring last, Ends store.defersTo? id deferring last := by
  rcases ends.of_fewer fun _ _ => base?_of_defersTo? with ⟨deferring, last, defers, -⟩
  exact ⟨deferring, last, defers⟩

/-! ## One step -/

theorem accepts_of_simple (found : store.simpleAt? id = some simple)
    (present : value.isNull = false) : store.accepts (count + 1) id value =
      (simple.admits value && (store.defersTo? id).all (store.accepts count · value)) := by
  rcases kind_of_simpleAt? found with ⟨type, typeFound, kind⟩
  have defers : store.defersTo? id = store.resolve type.base := by
    rw [defersTo?, along, typeFound, Option.bind_some, DocumentType.simple?, kind]
    rfl
  rw [accepts, typeFound, defers]
  simp only [kind, present, Bool.false_eq_true, if_false]

theorem accepts_of_other (notSimple : store.simpleAt? id = none) (value : Value) :
    store.accepts (count + 1) id value = store.accepts (bound + 1) id value := by
  unfold accepts
  cases found : store.type? id with
  | none => rfl
  | some type =>
      rcases type with ⟨name, base, flags, kind⟩
      cases kind with
      | simple => simp [simpleAt?, found, DocumentType.simple?] at notSimple
      | primitive | complex | composite | list => rfl

theorem accepts_of_defers (ends : Ends store.defersTo? id path last)
    (present : value.isNull = false) (enough : path.length < count)
    (plenty : path.length < bound) :
    store.accepts count id value = store.accepts bound id value := by
  induction ends generalizing count bound with
  | @here place stop =>
      obtain ⟨count, rfl⟩ := Nat.exists_eq_succ_of_ne_zero (Nat.ne_of_gt enough)
      obtain ⟨bound, rfl⟩ := Nat.exists_eq_succ_of_ne_zero (Nat.ne_of_gt plenty)
      cases found : store.simpleAt? place with
      | none => exact accepts_of_other found value
      | some simple =>
          rw [accepts_of_simple found present, accepts_of_simple found present, stop]
          rfl
  | @on place other last path step rest induction =>
      obtain ⟨count, rfl⟩ := Nat.exists_eq_succ_of_ne_zero (Nat.ne_zero_of_lt enough)
      obtain ⟨bound, rfl⟩ := Nat.exists_eq_succ_of_ne_zero (Nat.ne_zero_of_lt plenty)
      cases found : store.simpleAt? place with
      | none => exact accepts_of_other found value
      | some simple =>
          have onward := induction (Nat.lt_of_succ_lt_succ enough) (Nat.lt_of_succ_lt_succ plenty)
          rw [accepts_of_simple found present, accepts_of_simple found present, step,
            Option.all_some, Option.all_some, onward]

theorem validate_of_simple (ends : Ends store.defersTo? id path last)
    (found : store.simpleAt? id = some simple) (present : value.isNull = false) :
    store.validate id value =
      (simple.admits value && (store.defersTo? id).all (store.validate · value)) := by
  rw [validate, accepts_of_simple found present]
  cases ends with
  | here stop => rw [stop]; rfl
  | @on _ other _ rest step restEnds =>
      have few : (id :: rest).length ≤ store.types.size :=
        length_le_of_ends (.on step restEnds)
      rw [step, Option.all_some, Option.all_some, validate,
        accepts_of_defers restEnds present few (Nat.lt_succ_of_lt few)]

/-! ## The whole way -/

/-- What a type says about a value by itself: a simple type through its constraints, any other
type once and for all. -/
def agreesTo (store : Store) (value : Value) (id : TypeId) : Prop :=
  match store.simpleAt? id with
  | some simple => ∀ constraint ∈ simple.constraints, constraint.accepts value = true
  | none => store.validate id value = true

/-- The induction is along the way on which types defer. -/
theorem validate_iff_agree (ends : Ends store.defersTo? id path last)
    (present : value.isNull = false) : store.validate id value = true ↔
      ∀ other, Reaches store.defersTo? id other → store.agreesTo value other := by
  induction ends with
  | @here place stop =>
      rw [forall_reaches_iff, stop]
      cases found : store.simpleAt? place with
      | none => simp [agreesTo, found]
      | some simple =>
          rw [validate_of_simple (.here stop) found present, stop]
          simp [agreesTo, found, SimpleType.admits_iff]
  | @on place other last path step rest induction =>
      cases found : store.simpleAt? place with
      | none =>
          rw [defersTo?_of_other found] at step
          cases step
      | some simple =>
          rw [forall_reaches_iff, validate_of_simple (.on step rest) found present, step]
          simp [agreesTo, found, SimpleType.admits_iff, induction]

/-! ## Constraints in another order -/

theorem Loosened.of_held {type : DocumentType} {kind : TypeKind}
    (found : store.type? id = some type)
    (same : ({ type with kind } : DocumentType).held = type.held) :
    store.Loosened (store.setKind id kind) := by
  refine (Loosened.refl store).setKind fun present presentFound other member => ?_
  cases found.symm.trans presentFound
  exact (Loosened.refl store).held found (same ▸ member)

theorem resolve_setKind_of_held {type : DocumentType} {kind : TypeKind}
    (found : store.type? id = some type)
    (same : ({ type with kind } : DocumentType).held = type.held) (reference : TypeRef) :
    (store.setKind id kind).resolve reference = store.resolve reference := by
  have back : (store.setKind id kind).Loosened store := by
    have replaced : (store.setKind id kind).type? id = some { type with kind } := by
      rw [type?_setKind, if_pos rfl, found]
      rfl
    have again : (store.setKind id kind).Loosened ((store.setKind id kind).setKind id type.kind) :=
      Loosened.of_held replaced same.symm
    rwa [setKind_setKind, setKind_self found] at again
  have alive (other : TypeId) : (store.setKind id kind).isAlive other = store.isAlive other :=
    Bool.eq_iff_iff.mpr ⟨(Loosened.of_held found same).isAlive, back.isAlive⟩
  cases reference <;> simp only [resolve, registry_setKind, registryId_setKind, alive]

theorem accepts_setKind_simple (found : store.simpleAt? place = some simple)
    {constraints : List Constraint}
    (same : ∀ constraint, constraint ∈ constraints ↔ constraint ∈ simple.constraints)
    (count : Nat) (id : TypeId) (value : Value) :
    (store.setKind place (.simple { simple with constraints })).accepts count id value =
      store.accepts count id value := by
  rcases kind_of_simpleAt? found with ⟨type, typeFound, kind⟩
  have held : ({ type with kind := .simple { simple with constraints } } : DocumentType).held =
      type.held := by
    rw [DocumentType.held, DocumentType.held, kind]
  induction count generalizing id with
  | zero => rfl
  | succ count induction =>
      have resolved := resolve_setKind_of_held typeFound held
      unfold accepts
      rw [type?_setKind]
      by_cases here : id = place
      · subst here
        simp only [if_true, typeFound, Option.map_some, kind, resolved, induction,
          SimpleType.admits_congr same]
        rfl
      · simp only [if_neg here, resolved, induction]

theorem validate_setKind_simple (found : store.simpleAt? place = some simple)
    {constraints : List Constraint}
    (same : ∀ constraint, constraint ∈ constraints ↔ constraint ∈ simple.constraints)
    (id : TypeId) (value : Value) :
    (store.setKind place (.simple { simple with constraints })).validate id value =
      store.validate id value := by
  rw [validate, validate, size_setKind]
  exact accepts_setKind_simple found same _ id value

/-- If the chain of bases ends, a value is accepted just if all constraints of all the simple
types on the way accept it, and so does the first type that is not simple. If the way ends at a
base that is not to be found, nobody else is asked. Constraints may stand in any order, at any of
the types. -/
theorem validate_iff_reached (ends : Ends store.base? id path root)
    (present : value.isNull = false) :
    (store.validate id value = true ↔
      (∀ link simple, Reaches store.defersTo? id link → store.simpleAt? link = some simple →
        ∀ constraint ∈ simple.constraints, constraint.accepts value = true) ∧
      ∀ stop, Reaches store.defersTo? id stop → store.simpleAt? stop = none →
        store.validate stop value = true) ∧
    ∀ place simple constraints, store.simpleAt? place = some simple →
      (∀ constraint, constraint ∈ constraints ↔ constraint ∈ simple.constraints) →
      (store.setKind place (.simple { simple with constraints })).validate id value =
        store.validate id value := by
  refine ⟨?_, fun place simple constraints found same => validate_setKind_simple found same id value⟩
  rcases exists_ends_defersTo ends with ⟨deferring, last, defers⟩
  rw [validate_iff_agree defers present]
  constructor
  · intro agree
    refine ⟨fun link simple reaches found => ?_, fun stop reaches notSimple => ?_⟩
    · have agrees := agree link reaches
      rwa [agreesTo, found] at agrees
    · have agrees := agree stop reaches
      rwa [agreesTo, notSimple] at agrees
  · rintro ⟨simples, stops⟩ other reaches
    rw [agreesTo]
    cases found : store.simpleAt? other with
    | some simple => exact simples other simple reaches found
    | none => exact stops other reaches found

/-- A text that is too long for the type below, although it is listed. And a type whose base is
not to be found, whose constraints may be read from the last one to the first. -/
theorem validate_iff_reached_of_marks :
    let simple (base : TypeRef) (constraints : List Constraint) : Operation :=
      .build ⟨⟨"s", "mark"⟩, base, 0, .simple constraints⟩
    let named (name : String) : TypeRef := .named Store.initial.registryId ⟨"system", name⟩
    let few : Constraint := .oneOf ["A", "none"]
    let short : Constraint := .length ⟨some 1, some 3⟩
    let store := following [simple (named "string") [short],
      simple (.direct ⟨8⟩ ⟨"s", "mark"⟩) [few], simple (named "gone") [few, short]]
    (Ends store.base? ⟨9⟩ [⟨9⟩, ⟨8⟩] ⟨0⟩ ∧
      store.validate ⟨9⟩ (.string "A") = true ∧ store.validate ⟨9⟩ (.string "none") = false) ∧
    (Ends store.base? ⟨10⟩ [] ⟨10⟩ ∧ store.validate ⟨10⟩ (.string "A") = true ∧
      ∃ simple, store.simpleAt? ⟨10⟩ = some simple ∧
        (store.setKind ⟨10⟩ (.simple { simple with constraints := simple.constraints.reverse
          })).validate ⟨10⟩ (.string "A") = true) := by
  intro simple named few short store
  have marks : Ends store.base? ⟨9⟩ [⟨9⟩, ⟨8⟩] ⟨0⟩ :=
    .on (by decide +kernel) (.on (by decide +kernel) (.here (by decide +kernel)))
  have orphan : Ends store.base? ⟨10⟩ [] ⟨10⟩ := .here (by decide +kernel)
  have accepted : store.validate ⟨10⟩ (.string "A") = true := by decide +kernel
  refine ⟨⟨marks, by decide +kernel, Bool.eq_false_iff.mpr fun long => ?_⟩, orphan, accepted, ?_⟩
  · have step : store.defersTo? ⟨9⟩ = some ⟨8⟩ := by decide +kernel
    have below : Reaches store.defersTo? ⟨9⟩ ⟨8⟩ := .single step
    have tooLong : (store.simpleAt? ⟨8⟩).any (!·.admits (.string "none")) = true := by
      decide +kernel
    rcases Option.any_eq_true _ _ |>.mp tooLong with ⟨type, found, refused⟩
    have admitted := SimpleType.admits_iff.mpr
      (((validate_iff_reached marks rfl).1.mp long).1 ⟨8⟩ type below found)
    rw [admitted] at refused
    cases refused
  · have isSimple : (store.simpleAt? ⟨10⟩).isSome = true := by decide +kernel
    rcases Option.isSome_iff_exists.mp isSimple with ⟨type, found⟩
    refine ⟨type, found, ?_⟩
    rw [← accepted]
    exact (validate_iff_reached orphan rfl).2 ⟨10⟩ type _ found fun _ => List.mem_reverse

end Store
end DocumentTypes
