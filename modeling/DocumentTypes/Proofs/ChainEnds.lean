import DocumentTypes.Proofs.Steadiness
import DocumentTypes.Proofs.Walks

/-! # Ends of chains

What goes from a type to its base, or from a list to its items, is done with as many steps
as there are types on the way, if the way ends. More steps change nothing, and the number of
types is always enough. -/

namespace DocumentTypes

namespace Store

variable {store before after : Store} {id other last : TypeId} {path : List TypeId}

/-- The reference that leads from a list to its items. -/
def itemReference? (type : DocumentType) : Option TypeRef :=
  type.list?.map fun list => list.item.valueType

/-- Where some reference of a type leads at this moment. -/
def along (store : Store) (reference? : DocumentType → Option TypeRef) (id : TypeId) :
    Option TypeId :=
  (store.type? id).bind fun type => (reference? type).bind store.resolve

theorem base?_eq_along (store : Store) :
    store.base? = store.along fun type => some type.base := rfl

def item? (store : Store) : TypeId → Option TypeId := store.along itemReference?

theorem position_lt_of_along {reference? : DocumentType → Option TypeRef}
    (step : store.along reference? id = some other) : id.position < store.types.size := by
  rcases Option.bind_eq_some_iff.mp step with ⟨type, found, -⟩
  exact position_lt found

theorem Steady.item? (steady : before.Steady after) (found : after.item? id = some other) :
    before.item? id = some other := by
  rcases Option.bind_eq_some_iff.mp found with ⟨type, typeFound, onward⟩
  rcases Option.bind_eq_some_iff.mp onward with ⟨reference, isItem, resolved⟩
  rcases steady.sameDeclared.symm.type? typeFound with ⟨earlier, earlierFound, -, declared⟩
  have same : itemReference? earlier = itemReference? type := by
    have ofDeclared (type : DocumentType) :
        itemReference? { type with kind := type.kind.declared } = itemReference? type := by
      rcases type with ⟨name, base, flags, kind⟩
      cases kind <;> rfl
    rw [← ofDeclared earlier, ← ofDeclared type]
    unfold itemReference? DocumentType.list?
    rw [declared]
  rw [Store.item?, along, earlierFound, Option.bind_some, same, isItem]
  exact steady.resolve resolved

/-! ## Ways through a store -/

section

variable {reference? : DocumentType → Option TypeRef}

theorem finite_along (store : Store) (reference? : DocumentType → Option TypeRef) :
    {id | (store.along reference? id).isSome = true}.Finite := by
  refine Set.Finite.subset (List.finite_toSet store.ids) fun id leads => ?_
  rcases Option.isSome_iff_exists.mp leads with ⟨other, step⟩
  exact mem_ids_iff.mpr (position_lt_of_along step)

theorem length_le_of_ends (ends : Ends (store.along reference?) id path last) :
    path.length ≤ store.types.size := by
  refine length_le_of_nodup ends.nodup fun other member => ?_
  rcases Option.isSome_iff_exists.mp (ends.leads_of_mem member).2 with ⟨onward, step⟩
  exact position_lt_of_along step

end

/-! ## Bases -/

theorem ancestors_of_ends (ends : Ends store.base? id path last) {count : Nat}
    (enough : path.length ≤ count) : id :: store.ancestors count id = path ++ [last] := by
  induction ends generalizing count with
  | here stop =>
      cases count with
      | zero => rfl
      | succ count => rw [ancestors, stop, List.nil_append]
  | @on place other last path step rest induction =>
      cases count with
      | zero => cases enough
      | succ count =>
          rw [ancestors, step, List.cons_append, ← induction (Nat.le_of_succ_le_succ enough)]

/-- A chain ends if a bounded number of steps does not exhaust the bound. -/
theorem exists_ends_of_ancestors {count : Nat} (few : (store.ancestors count id).length < count) :
    ∃ path root, Ends store.base? id path root := by
  induction count generalizing id with
  | zero => cases few
  | succ count induction =>
      rw [ancestors] at few
      cases step : store.base? id with
      | none => exact ⟨[], id, .here step⟩
      | some base =>
          rw [step] at few
          rcases induction (Nat.lt_of_succ_lt_succ few) with ⟨path, root, ends⟩
          exact ⟨id :: path, root, .on step ends⟩

theorem isSuperTypeOf_of_ends (ends : Ends store.base? id path last) (other : TypeId) :
    store.isSuperTypeOf other id = true ↔ other ∈ path ++ [last] := by
  have enough := length_le_of_ends (base?_eq_along store ▸ ends)
  rw [← ancestors_of_ends ends enough, isSuperTypeOf, Bool.or_eq_true, beq_iff_eq,
    List.contains_iff_mem, List.mem_cons]

theorem accepts_of_ends (ends : Ends store.base? id path last) (value : Value)
    {count bound : Nat} (enough : path.length < count) (plenty : path.length < bound) :
    store.accepts count id value = store.accepts bound id value := by
  induction ends generalizing count bound with
  | @here place stop =>
      cases count with
      | zero => cases enough
      | succ count =>
      cases bound with
      | zero => cases plenty
      | succ bound =>
          unfold accepts
          cases found : store.type? place with
          | none => rfl
          | some type =>
              rw [base?, found, Option.bind_some] at stop
              simp only [stop, Option.all_none]
  | @on place other last path step rest induction =>
      cases count with
      | zero => cases enough
      | succ count =>
      cases bound with
      | zero => cases plenty
      | succ bound =>
          have onward := induction (Nat.lt_of_succ_lt_succ enough) (Nat.lt_of_succ_lt_succ plenty)
          unfold accepts
          cases found : store.type? place with
          | none => rfl
          | some type =>
              rw [base?, found, Option.bind_some] at step
              simp only [step, Option.all_some, onward]

theorem Finds.length_le_of_ends {trail : List TypeId} {primitive : TypeId}
    (finds : store.Finds id trail primitive) (ends : Ends store.base? id path last) :
    trail.length ≤ path.length := by
  induction finds generalizing path with
  | primitive | remembered => exact Nat.zero_le _
  | searched _ _ base_eq _ induction =>
      rcases ends.onward base_eq with ⟨rest, rfl, restEnds⟩
      exact Nat.succ_le_succ (induction restEnds)

end Store

namespace Action

variable {store : Store} {id last : TypeId} {path : List TypeId}

theorem run_findPrimitive_of_ends (ends : Ends store.base? id path last) {count : Nat}
    (enough : path.length < count) :
    (findPrimitive count id).run store = (primitiveOf id).run store := by
  rcases run_findPrimitive count id store with ⟨trail, primitive, finds, run⟩ | ⟨run, few⟩
  · rw [run, run_primitiveOf_of_finds finds]
  · rcases run_primitiveOf id store with ⟨trail, primitive, finds, -⟩ | ⟨none, -⟩
    · have shorter := finds.length_le_of_ends ends
      have longer := few trail primitive finds
      omega
    · rw [run, none]

end Action

/-! ## Texts -/

namespace Attempt

variable {α β : Type} {store : Store} {id last : TypeId} {path : List TypeId}

theorem run_mapM_congr {one other : α → Attempt β}
    (steadies : ∀ value, Action.Steadies (one value).run)
    (same : ∀ value later, store.Steady later →
      (one value).run.run later = (other value).run.run later) (values : List α) :
    (values.mapM one).run.run store = (values.mapM other).run.run store := by
  induction values generalizing store with
  | nil => rfl
  | cons value rest induction =>
      have steady := (steadies value).run store
      rw [List.mapM_cons, List.mapM_cons, run_bind, run_bind, ← same value store (.refl store)]
      rcases first : (one value).run.run store with ⟨outcome, middle⟩
      rw [first] at steady
      cases outcome with
      | error failure => rfl
      | ok answer =>
          have restSame := induction fun value later after => same value later (steady.trans after)
          simp only [run_bind, restSame]

theorem run_decodeWithin_list {type : DocumentType} {list : ListType}
    (found : store.type? id = some type) (kind : type.kind = .list list) (depth : Nat)
    (text : Option String) : (decodeWithin (depth + 1) id text).run.run store =
      match text, store.resolve list.item.valueType with
      | some text, some item => (((splitItems text).mapM fun part =>
          decodeWithin depth item (some part)) >>= fun items =>
            Pure.pure (Value.array items)).run.run store
      | _, _ => (.ok .null, store) := by
  rw [decodeWithin, run_bind_type?, found, Option.map_some, kind]
  dsimp only
  rw [run_bind, run_lift, Action.run_resolve]
  cases text with
  | none => rfl
  | some text => cases store.resolve list.item.valueType <;> rfl

/-- While items are read, the way through the lists may only get shorter. -/
theorem run_decodeWithin_of_ends (ends : Ends store.item? id path last) (text : Option String)
    {count bound : Nat} (enough : path.length < count) (plenty : path.length < bound) :
    (decodeWithin count id text).run.run store = (decodeWithin bound id text).run.run store := by
  induction count generalizing store id path last text bound with
  | zero => cases enough
  | succ count induction =>
  cases bound with
  | zero => cases plenty
  | succ bound =>
      cases found : store.type? id with
      | none => rw [decodeWithin, decodeWithin, run_bind_type?, run_bind_type?, found]; rfl
      | some type =>
          cases kind : type.kind with
          | list list =>
              rw [run_decodeWithin_list found kind, run_decodeWithin_list found kind]
              cases resolved : store.resolve list.item.valueType with
              | none => cases text <;> rfl
              | some item =>
                  cases text with
                  | none => rfl
                  | some text =>
                      have step : store.item? id = some item := by
                        rw [Store.item?, Store.along, found, Option.bind_some,
                          Store.itemReference?, DocumentType.list?, kind]
                        exact resolved
                      rcases ends.onward step with ⟨rest, rfl, restEnds⟩
                      have parts := run_mapM_congr
                        (fun part => Action.steadies_decodeWithin count item (some part))
                        (fun part later steady => by
                          rcases restEnds.of_fewer fun _ _ => steady.item? with
                            ⟨shorter, stop, laterEnds, length⟩
                          exact induction laterEnds (some part)
                            (Nat.lt_of_le_of_lt length (Nat.lt_of_succ_lt_succ enough))
                            (Nat.lt_of_le_of_lt length (Nat.lt_of_succ_lt_succ plenty)))
                        (splitItems text)
                      dsimp only
                      rw [run_bind, run_bind, parts]
          | primitive | simple | complex | composite =>
              rw [decodeWithin, decodeWithin, run_bind_type?, run_bind_type?, found,
                Option.map_some, kind]

theorem run_decode_of_ends (ends : Ends store.item? id path last) (text : Option String)
    {count : Nat} (enough : path.length < count) :
    (decodeWithin count id text).run.run store = (decode id text).run.run store := by
  have few := Store.length_le_of_ends ends
  rw [Action.run_decode]
  exact run_decodeWithin_of_ends ends text enough (Nat.lt_succ_of_le few)

end Attempt

/-- What goes along the chain of a type is done at its end: more steps change nothing. Texts
of lists are read through the items of the lists. -/
structure Store.Done (store : Store) (id : TypeId) (path : List TypeId) (root : TypeId) :
    Prop where
  few : path.length ≤ store.types.size
  ancestors : ∀ count, path.length ≤ count → id :: store.ancestors count id = path ++ [root]
  supertypes : ∀ other, store.isSuperTypeOf other id = true ↔ other ∈ path ++ [root]
  validated : ∀ count value, path.length < count →
    store.accepts count id value = store.validate id value
  primitive : ∀ count, path.length < count →
    (Action.findPrimitive count id).run store = (Action.primitiveOf id).run store
  decoded : ∀ items last, Ends store.item? id items last → ∀ count text, items.length < count →
    (Attempt.decodeWithin count id text).run.run store = (Attempt.decode id text).run.run store

theorem Store.done_of_ends {store : Store} {id root : TypeId} {path : List TypeId}
    (ends : Ends store.base? id path root) : store.Done id path root where
  few := length_le_of_ends (base?_eq_along store ▸ ends)
  ancestors _ := ancestors_of_ends ends
  supertypes := isSuperTypeOf_of_ends ends
  validated _ value enough := accepts_of_ends ends value enough
    (Nat.lt_succ_of_le (length_le_of_ends (base?_eq_along store ▸ ends)))
  primitive _ := Action.run_findPrimitive_of_ends ends
  decoded _ _ lists _ text := Attempt.run_decode_of_ends lists text

end DocumentTypes
