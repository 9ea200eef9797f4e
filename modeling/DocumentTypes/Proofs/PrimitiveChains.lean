import DocumentTypes.Proofs.Lasting
import DocumentTypes.Store.Ancestry
import Mathlib.Data.List.Nodup
import Mathlib.Data.List.Perm.Subperm
import Mathlib.Data.List.TakeWhile

/-! # Chains of simple types

A simple type derives from the primitive at the end of its chain of bases. Looking for that
primitive goes along the same chain, up to the first type that remembers what was found
before, and all types before that one remember the answer from then on. -/

namespace DocumentTypes

/-- Back references lead from a field to the type that declares it. Such a type has fields,
so they never lead to a simple type or a primitive. -/
def TypeRef.isBack : TypeRef → Bool
  | .owner _ _ => true
  | _ => false

namespace Store

variable {store left right : Store} {id base primitive other : TypeId} {path trail : List TypeId}

def simpleAt? (store : Store) (id : TypeId) : Option SimpleType :=
  (store.type? id).bind DocumentType.simple?

theorem remembered?_eq_bind (store : Store) (id : TypeId) :
    store.remembered? id = (store.simpleAt? id).bind SimpleType.primitive := by
  rw [simpleAt?, Option.bind_assoc]
  rfl

theorem kind_of_simpleAt? {simple : SimpleType} (found : store.simpleAt? id = some simple) :
    ∃ type, store.type? id = some type ∧ type.kind = .simple simple := by
  rcases Option.bind_eq_some_iff.mp found with ⟨⟨name, reference, flags, kind⟩, typeFound, is⟩
  refine ⟨_, typeFound, ?_⟩
  cases kind <;> cases is
  rfl

theorem kind_of_primitiveAt? {kind : PrimitiveKind} (found : store.primitiveAt? id = some kind) :
    ∃ type, store.type? id = some type ∧ type.kind = .primitive kind := by
  rcases Option.bind_eq_some_iff.mp found with ⟨⟨name, reference, flags, kind⟩, typeFound, is⟩
  refine ⟨_, typeFound, ?_⟩
  cases kind <;> cases is
  rfl

theorem simpleAt?_of_primitiveAt? {kind : PrimitiveKind}
    (found : store.primitiveAt? id = some kind) : store.simpleAt? id = none := by
  rcases kind_of_primitiveAt? found with ⟨⟨name, reference, flags, kind⟩, typeFound, rfl⟩
  rw [simpleAt?, typeFound]
  rfl

/-! ## What a type derives from -/

/-- The simple types from one to the primitive that it derives from, in the order of
derivation. -/
inductive Derives (store : Store) : TypeId → List TypeId → TypeId → Prop
  | primitive {id : TypeId} {kind : PrimitiveKind} (found : store.primitiveAt? id = some kind) :
      Derives store id [] id
  | simple {id base primitive : TypeId} {type : DocumentType} {simple : SimpleType}
      {path : List TypeId} (found : store.type? id = some type)
      (isSimple : type.simple? = some simple) (forward : type.base.isBack = false)
      (base_eq : store.resolve type.base = some base) (rest : Derives store base path primitive) :
      Derives store id (id :: path) primitive

theorem Derives.of_base (isSimple : (store.simpleAt? id).isSome)
    (forward : (store.type? id).any fun type => !type.base.isBack)
    (base_eq : store.base? id = some base) (rest : store.Derives base path primitive) :
    store.Derives id (id :: path) primitive := by
  rcases Option.isSome_iff_exists.mp isSimple with ⟨simple, simpleFound⟩
  rcases Option.bind_eq_some_iff.mp simpleFound with ⟨type, found, is⟩
  rw [found] at forward
  rw [base?, found] at base_eq
  exact .simple found is (by simpa using forward) base_eq rest

theorem Derives.primitiveAt? (derives : store.Derives id path primitive) :
    ∃ kind, store.primitiveAt? primitive = some kind := by
  induction derives with
  | primitive found => exact ⟨_, found⟩
  | simple _ _ _ _ _ induction => exact induction

/-- How the primitive of a type is looked for: the simple types on the way that do not
remember it yet. -/
inductive Finds (store : Store) : TypeId → List TypeId → TypeId → Prop
  | primitive {id : TypeId} {kind : PrimitiveKind} (found : store.primitiveAt? id = some kind) :
      Finds store id [] id
  | remembered {id primitive : TypeId} (found : store.remembered? id = some primitive) :
      Finds store id [] primitive
  | searched {id base primitive : TypeId} {simple : SimpleType} {trail : List TypeId}
      (found : store.simpleAt? id = some simple) (unknown : simple.primitive = none)
      (base_eq : store.base? id = some base) (rest : Finds store base trail primitive) :
      Finds store id (id :: trail) primitive

theorem Derives.finds (derives : store.Derives id path primitive) :
    store.Finds id (path.takeWhile fun other => (store.remembered? other).isNone)
      ((path.findSome? store.remembered?).getD primitive) := by
  induction derives with
  | primitive found => exact .primitive found
  | @simple id base primitive type simple path found isSimple forward base_eq rest induction =>
      have simpleFound : store.simpleAt? id = some simple := by
        rw [simpleAt?, found]
        exact isSimple
      rw [List.findSome?_cons, List.takeWhile_cons]
      cases known : store.remembered? id with
      | some other => exact .remembered known
      | none =>
          rw [remembered?_eq_bind, simpleFound] at known
          exact .searched simpleFound known (by rw [base?, found]; exact base_eq) induction

theorem Finds.goesOn (finds : store.Finds id trail primitive)
    (noPrimitive : store.primitiveAt? id = none) (unknown : store.remembered? id = none) :
    ∃ base rest simple, store.simpleAt? id = some simple ∧ store.base? id = some base ∧
      trail = id :: rest ∧ store.Finds base rest primitive := by
  cases finds with
  | primitive found =>
      rw [noPrimitive] at found
      cases found
  | remembered found =>
      rw [unknown] at found
      cases found
  | searched found _ base_eq rest => exact ⟨_, _, _, found, base_eq, rfl, rest⟩

theorem Finds.unique {otherTrail : List TypeId} (finds : store.Finds id trail primitive)
    (again : store.Finds id otherTrail other) : trail = otherTrail ∧ primitive = other := by
  induction finds generalizing otherTrail with
  | primitive found =>
      have notSimple := simpleAt?_of_primitiveAt? found
      cases again with
      | primitive => exact ⟨rfl, rfl⟩
      | remembered known => rw [remembered?_eq_bind, notSimple] at known; cases known
      | searched simple => rw [notSimple] at simple; cases simple
  | remembered known =>
      rw [remembered?_eq_bind] at known
      cases again with
      | primitive found => rw [simpleAt?_of_primitiveAt? found] at known; cases known
      | remembered same =>
          rw [remembered?_eq_bind] at same
          exact ⟨rfl, Option.some.inj (known.symm.trans same)⟩
      | searched simple unknown =>
          rw [simple, Option.bind_some, unknown] at known
          cases known
  | searched simple unknown base_eq _ induction =>
      cases again with
      | primitive found => rw [simpleAt?_of_primitiveAt? found] at simple; cases simple
      | remembered known =>
          rw [remembered?_eq_bind, simple, Option.bind_some, unknown] at known
          cases known
      | searched _ _ sameBase rest =>
          cases base_eq.symm.trans sameBase
          rcases induction rest with ⟨rfl, rfl⟩
          exact ⟨rfl, rfl⟩

theorem Finds.of_mem (finds : store.Finds id trail primitive) (member : other ∈ trail) :
    ∃ rest simple, store.Finds other rest primitive ∧ rest.length ≤ trail.length ∧
      store.simpleAt? other = some simple ∧ simple.primitive = none := by
  induction finds with
  | primitive | remembered => cases member
  | @searched id base primitive simple trail found unknown base_eq rest induction =>
      rcases List.mem_cons.mp member with rfl | later
      · exact ⟨_, simple, .searched found unknown base_eq rest, Nat.le_refl _, found, unknown⟩
      · rcases induction later with ⟨other, simple, finds, shorter, simpleFound⟩
        exact ⟨other, simple, finds, Nat.le_succ_of_le shorter, simpleFound⟩

/-- The search comes to no type twice, for it would go round for ever. -/
theorem Finds.nodup (finds : store.Finds id trail primitive) : trail.Nodup := by
  induction finds with
  | primitive | remembered => exact List.nodup_nil
  | @searched id base primitive simple trail found unknown base_eq rest induction =>
      refine List.nodup_cons.mpr ⟨fun member => ?_, induction⟩
      rcases rest.of_mem member with ⟨shorter, _, finds, length, -⟩
      rcases finds.unique (.searched found unknown base_eq rest) with ⟨rfl, -⟩
      exact absurd length (Nat.not_succ_le_self _)

theorem length_le_of_nodup (nodup : path.Nodup)
    (inside : ∀ other ∈ path, other.position < store.types.size) :
    path.length ≤ store.types.size := by
  have positions : (path.map TypeId.position).Nodup := nodup.map fun _ _ => position_inj.mp
  have bounded : path.map TypeId.position ⊆ List.range store.types.size := by
    intro position member
    rcases List.mem_map.mp member with ⟨other, otherMember, rfl⟩
    exact List.mem_range.mpr (inside other otherMember)
  have lengths := (List.subperm_of_subset positions bounded).length_le
  rwa [List.length_map, List.length_range] at lengths

theorem Finds.length_le (finds : store.Finds id trail primitive) :
    trail.length ≤ store.types.size := by
  refine length_le_of_nodup finds.nodup fun other member => ?_
  rcases finds.of_mem member with ⟨_, _, _, _, found, -⟩
  rcases kind_of_simpleAt? found with ⟨type, typeFound, -⟩
  exact position_lt typeFound

/-! ## What was declared -/

theorem resolve_of_forward (registryId : right.registryId = left.registryId)
    (types : right.registry.types = left.registry.types)
    (schemas : right.registry.schemas = left.registry.schemas) {reference : TypeRef}
    (forward : reference.isBack = false) : right.resolve reference = left.resolve reference := by
  cases reference with
  | null | direct => rfl
  | named => rw [Store.resolve, Store.resolve, registryId, types]
  | schema => rw [Store.resolve, Store.resolve, registryId, schemas]
  | owner => cases forward

namespace SameDeclared

theorem type? (same : left.SameDeclared right) {type : DocumentType}
    (found : left.type? id = some type) :
    ∃ later, right.type? id = some later ∧ later.base = type.base ∧
      later.kind.declared = type.kind.declared := by
  have equal := congrArg (Store.type? · id) same.eq
  simp only [type?_stripped, found, Option.map_some] at equal
  rcases Option.map_eq_some_iff.mp equal.symm with ⟨later, laterFound, laterEqual⟩
  exact ⟨later, laterFound, (congrArg DocumentType.base laterEqual :),
    (congrArg DocumentType.kind laterEqual :)⟩

theorem primitiveAt? (same : left.SameDeclared right) {kind : PrimitiveKind}
    (found : left.primitiveAt? id = some kind) : right.primitiveAt? id = some kind := by
  rcases kind_of_primitiveAt? found with ⟨type, typeFound, kindFound⟩
  rcases same.type? typeFound with ⟨⟨name, reference, flags, later⟩, laterFound, -, kinds⟩
  rw [kindFound] at kinds
  rw [Store.primitiveAt?, laterFound]
  cases later <;> cases kinds
  rfl

theorem simpleAt? (same : left.SameDeclared right) {simple : SimpleType}
    (found : left.simpleAt? id = some simple) :
    ∃ later, right.simpleAt? id = some later := by
  rcases kind_of_simpleAt? found with ⟨type, typeFound, kindFound⟩
  rcases same.type? typeFound with ⟨⟨name, reference, flags, later⟩, laterFound, -, kinds⟩
  rw [kindFound] at kinds
  rw [Store.simpleAt?, laterFound]
  cases later with
  | simple => exact ⟨_, rfl⟩
  | primitive | complex | composite | list => cases kinds

theorem resolve (same : left.SameDeclared right) {reference : TypeRef}
    (forward : reference.isBack = false) : right.resolve reference = left.resolve reference :=
  resolve_of_forward same.registryId_eq.symm
    (congrArg (fun store : Store => store.registry.types) same.eq.symm :) same.schemas_eq.symm forward

theorem derives (same : left.SameDeclared right) (derives : left.Derives id path primitive) :
    right.Derives id path primitive := by
  induction derives with
  | primitive found => exact .primitive (same.primitiveAt? found)
  | @simple id base primitive type simple path found isSimple forward base_eq _ induction =>
      have simpleFound : left.simpleAt? id = some simple := by
        rw [Store.simpleAt?, found]
        exact isSimple
      rcases same.type? found with ⟨later, laterFound, base, -⟩
      rcases same.simpleAt? simpleFound with ⟨laterSimple, laterIs⟩
      rw [Store.simpleAt?, laterFound] at laterIs
      exact .simple laterFound laterIs (base ▸ forward)
        (by rw [base, same.resolve forward]; exact base_eq) induction

end SameDeclared

theorem sameDeclared_stripped (store : Store) : store.SameDeclared (store.stripped .declared) := by
  have twice : ∀ kind : TypeKind, kind.declared.declared = kind.declared := fun kind => by
    cases kind <;> rfl
  simp [SameDeclared, stripped, Function.comp_def, twice]

theorem remembered?_stripped (store : Store) (id : TypeId) :
    (store.stripped .declared).remembered? id = none := by
  rw [remembered?, type?_stripped]
  rcases store.type? id with _ | ⟨name, reference, flags, kind⟩
  · rfl
  · cases kind <;> rfl

theorem Derives.length_le (derives : store.Derives id path primitive) :
    path.length ≤ store.types.size := by
  -- Where nothing is remembered the search goes the whole way.
  have whole : path.takeWhile (fun other =>
      ((store.stripped .declared).remembered? other).isNone) = path :=
    List.takeWhile_eq_self_iff.mpr fun other _ => by rw [remembered?_stripped]; rfl
  have bound := ((sameDeclared_stripped store).derives derives).finds.length_le
  rwa [whole, stripped, Array.size_map] at bound

/-! ## Validation -/

theorem Derives.accepts_eq {kind : PrimitiveKind} {value : Value} {count : Nat}
    (derives : store.Derives id path primitive) (last : store.primitiveAt? primitive = some kind)
    (given : value.isNull = false) (enough : path.length < count) :
    store.accepts count id value =
      ((path.all fun other => (store.simpleAt? other).all fun simple => simple.admits value) &&
        kind.validate value) := by
  induction derives generalizing count with
  | primitive found =>
      cases found.symm.trans last
      rcases kind_of_primitiveAt? found with ⟨type, typeFound, kindFound⟩
      cases count with
      | zero => cases enough
      | succ count => simp [accepts, typeFound, kindFound, given]
  | @simple id base primitive type simple path found isSimple _ base_eq _ induction =>
      have simpleFound : store.simpleAt? id = some simple := by
        rw [simpleAt?, found]
        exact isSimple
      rcases kind_of_simpleAt? simpleFound with ⟨same, sameFound, kindFound⟩
      cases found.symm.trans sameFound
      cases count with
      | zero => cases enough
      | succ count =>
          have rest := induction last (Nat.lt_of_succ_lt_succ enough)
          simp [accepts, found, kindFound, given, base_eq, rest, simpleFound, Bool.and_assoc]

theorem Derives.validate_eq {kind : PrimitiveKind} {value : Value}
    (derives : store.Derives id path primitive) (last : store.primitiveAt? primitive = some kind)
    (given : value.isNull = false) :
    store.validate id value =
      ((path.all fun other => (store.simpleAt? other).all fun simple => simple.admits value) &&
        kind.validate value) :=
  derives.accepts_eq last given (Nat.lt_succ_of_le derives.length_le)

/-! ## Remembering -/

def remember (store : Store) (id primitive : TypeId) : Store :=
  match store.simpleAt? id with
  | some simple => store.setKind id (.simple { simple with primitive := some primitive })
  | none => store

/-- All types on the way remember what was found, the last of them first. -/
def rememberAll (store : Store) (trail : List TypeId) (primitive : TypeId) : Store :=
  trail.foldr (fun id store => store.remember id primitive) store

theorem sameDeclared_remember (store : Store) (id primitive : TypeId) :
    store.SameDeclared (store.remember id primitive) := by
  unfold remember
  cases found : store.simpleAt? id with
  | none => rfl
  | some simple =>
      rcases kind_of_simpleAt? found with ⟨type, typeFound, kind⟩
      exact (stripped_setKind_of_eq typeFound (by rw [kind]; rfl)).symm

theorem remembered?_remember {simple : SimpleType} (found : store.simpleAt? id = some simple)
    (primitive other : TypeId) :
    (store.remember id primitive).remembered? other =
      if other = id then some primitive else store.remembered? other := by
  rcases kind_of_simpleAt? found with ⟨type, typeFound, -⟩
  rw [remember, found, remembered?, type?_setKind, typeFound]
  split <;> rfl

theorem sameDeclared_rememberAll (store : Store) (trail : List TypeId) (primitive : TypeId) :
    store.SameDeclared (store.rememberAll trail primitive) := by
  induction trail with
  | nil => rfl
  | cons id trail induction => exact Eq.trans induction (sameDeclared_remember _ id primitive)

theorem Finds.remembered?_rememberAll (finds : store.Finds id trail primitive) (other : TypeId) :
    (store.rememberAll trail primitive).remembered? other =
      if other ∈ trail then some primitive else store.remembered? other := by
  induction finds with
  | primitive | remembered => rfl
  | @searched id base primitive simple trail found _ _ _ induction =>
      have same := sameDeclared_rememberAll store trail primitive
      rcases same.simpleAt? found with ⟨later, laterFound⟩
      change ((store.rememberAll trail primitive).remember id primitive).remembered? other = _
      rw [remembered?_remember laterFound, induction]
      by_cases same : other = id <;> simp [same]

end Store

namespace Action

open Store (Finds)

/-! ## The search -/

theorem run_rememberPrimitive (id primitive : TypeId) (store : Store) :
    (rememberPrimitive id primitive).run store = (⟨⟩, store.remember id primitive) := by
  unfold rememberPrimitive Store.remember Store.simpleAt?
  rw [run_bind, run_type?]
  rcases store.type? id with _ | ⟨name, base, flags, kind⟩
  · rfl
  · cases kind <;> rfl

variable {store : Store} {id base primitive : TypeId} {count : Nat}

theorem run_findPrimitive_primitive {kind : PrimitiveKind}
    (found : store.primitiveAt? id = some kind) (count : Nat) :
    (findPrimitive (count + 1) id).run store = (some id, store) := by
  rcases Store.kind_of_primitiveAt? found with ⟨type, typeFound, kindFound⟩
  simp only [findPrimitive, run_bind, run_type?, typeFound, Option.map_some, kindFound, run_pure]

theorem run_findPrimitive_simple {simple : SimpleType} (found : store.simpleAt? id = some simple)
    (count : Nat) :
    (findPrimitive (count + 1) id).run store =
      match simple.primitive, store.base? id with
      | some primitive, _ => (some primitive, store)
      | none, none => (none, store)
      | none, some base =>
        match (findPrimitive count base).run store with
        | (none, middle) => (none, middle)
        | (some primitive, middle) => (some primitive, middle.remember id primitive) := by
  rcases Store.kind_of_simpleAt? found with ⟨type, typeFound, kindFound⟩
  simp only [findPrimitive, run_bind, run_type?, typeFound, Option.map_some, kindFound]
  cases simple.primitive with
  | some primitive => rfl
  | none =>
      simp only [run_bind, run_get]
      cases store.base? id with
      | none => rfl
      | some base =>
          simp only [run_bind]
          rcases (findPrimitive count base).run store with ⟨answer, middle⟩
          cases answer with
          | none => rfl
          | some primitive =>
              simp only [run_bind, run_rememberPrimitive]
              rfl

theorem run_findPrimitive_other (noPrimitive : store.primitiveAt? id = none)
    (noSimple : store.simpleAt? id = none) (count : Nat) :
    (findPrimitive (count + 1) id).run store = (none, store) := by
  rw [Store.primitiveAt?] at noPrimitive
  rw [Store.simpleAt?] at noSimple
  rcases found : store.type? id with _ | ⟨name, reference, flags, kind⟩
  · simp only [findPrimitive, run_bind, run_type?, found, Option.map_none, run_pure]
  · rw [found] at noPrimitive noSimple
    cases kind with
    | primitive => cases noPrimitive
    | simple => cases noSimple
    | complex | composite | list =>
        simp only [findPrimitive, run_bind, run_type?, found, Option.map_some, run_pure]

/-- The search finds what is there to be found within its number of steps, and nothing
else. -/
theorem run_findPrimitive (count : Nat) (id : TypeId) (store : Store) :
    (∃ trail primitive, store.Finds id trail primitive ∧
      (findPrimitive count id).run store = (some primitive, store.rememberAll trail primitive)) ∨
    (findPrimitive count id).run store = (none, store) ∧
      ∀ trail primitive, store.Finds id trail primitive → count ≤ trail.length := by
  induction count generalizing id with
  | zero => exact .inr ⟨rfl, fun _ _ _ => Nat.zero_le _⟩
  | succ count induction =>
      cases isPrimitive : store.primitiveAt? id with
      | some kind =>
          exact .inl ⟨[], id, .primitive isPrimitive, run_findPrimitive_primitive isPrimitive count⟩
      | none =>
          cases isSimple : store.simpleAt? id with
          | none =>
              refine .inr ⟨run_findPrimitive_other isPrimitive isSimple count, ?_⟩
              intro trail primitive finds
              have unknown : store.remembered? id = none := by
                rw [Store.remembered?_eq_bind, isSimple]
                rfl
              rcases finds.goesOn isPrimitive unknown with ⟨_, _, _, found, -⟩
              rw [isSimple] at found
              cases found
          | some simple =>
              rw [run_findPrimitive_simple isSimple]
              have remembered : store.remembered? id = simple.primitive := by
                rw [Store.remembered?_eq_bind, isSimple, Option.bind_some]
              cases known : simple.primitive with
              | some primitive =>
                  exact .inl ⟨[], primitive, .remembered (remembered.trans known), rfl⟩
              | none =>
                  have goesOn := fun {trail primitive} (finds : store.Finds id trail primitive) =>
                    finds.goesOn isPrimitive (remembered.trans known)
                  cases base_eq : store.base? id with
                  | none =>
                      refine .inr ⟨rfl, fun trail primitive finds => ?_⟩
                      rcases goesOn finds with ⟨base, _, _, _, found, -⟩
                      rw [base_eq] at found
                      cases found
                  | some base =>
                      rcases induction base with ⟨trail, primitive, finds, run⟩ | ⟨run, few⟩
                      · refine .inl ⟨id :: trail, primitive,
                          .searched isSimple known base_eq finds, ?_⟩
                        simp only [run]
                        rfl
                      · refine .inr ⟨by simp only [run], fun trail primitive finds => ?_⟩
                        rcases goesOn finds with ⟨next, rest, _, _, found, rfl, restFinds⟩
                        cases base_eq.symm.trans found
                        exact Nat.succ_le_succ (few rest primitive restFinds)

/-- The primitive of a type is found whenever it can be, and the types on the way remember
it. -/
theorem run_primitiveOf (id : TypeId) (store : Store) :
    (∃ trail primitive, store.Finds id trail primitive ∧
      (primitiveOf id).run store = (some primitive, store.rememberAll trail primitive)) ∨
    (primitiveOf id).run store = (none, store) ∧
      ∀ trail primitive, ¬store.Finds id trail primitive := by
  change (∃ trail primitive, store.Finds id trail primitive ∧
      (findPrimitive (store.types.size + 1) id).run store = _) ∨
    (findPrimitive (store.types.size + 1) id).run store = _ ∧ _
  rcases run_findPrimitive (store.types.size + 1) id store with found | ⟨run, few⟩
  · exact .inl found
  · refine .inr ⟨run, fun trail primitive finds => ?_⟩
    exact absurd (few trail primitive finds) (Nat.not_le.mpr (Nat.lt_succ_of_le finds.length_le))

theorem run_primitiveOf_of_finds {trail : List TypeId} (finds : store.Finds id trail primitive) :
    (primitiveOf id).run store = (some primitive, store.rememberAll trail primitive) := by
  rcases run_primitiveOf id store with ⟨_, _, again, run⟩ | ⟨-, none⟩
  · rcases finds.unique again with ⟨rfl, rfl⟩
    exact run
  · exact absurd finds (none trail primitive)

end Action
end DocumentTypes
