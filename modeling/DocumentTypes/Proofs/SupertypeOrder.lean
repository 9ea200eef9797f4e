import DocumentTypes.Proofs.ChainEnds
import DocumentTypes.Proofs.Filing
import Mathlib.Order.Defs.Unbundled

/-! # The order of supertypes

Where all chains of bases end, the types are ordered by derivation, and the supertypes of
one type stand in a row. Derivation goes from type to type: what the types are called plays
no part in it. -/

namespace DocumentTypes.Store

variable {store : Store} {sub middle super first second : TypeId}

def ChainsEnd (store : Store) : Prop := ∀ id, ∃ path root, Ends store.base? id path root

theorem chainsEnd_of_ancestors (count : Nat)
    (few : ∀ id ∈ store.ids, (store.ancestors count id).length < count) : store.ChainsEnd := by
  intro id
  by_cases inside : id ∈ store.ids
  · exact exists_ends_of_ancestors (few id inside)
  · have absent : store.type? id = none :=
      Option.isNone_iff_eq_none.mp (by simpa [← type?_isSome_iff, mem_ids_iff] using inside)
    exact ⟨[], id, .here (by rw [base?, absent, Option.bind_none])⟩

/-! ## An order -/

theorem isSuperTypeOf_iff_reaches (finite : store.ChainsEnd) :
    store.isSuperTypeOf super sub = true ↔ Reaches store.base? sub super := by
  rcases finite sub with ⟨path, root, ends⟩
  rw [isSuperTypeOf_of_ends ends, ends.mem_iff_reaches]

theorem isSuperTypeOf_antisymm (finite : store.ChainsEnd)
    (up : Reaches store.base? sub super) (down : Reaches store.base? super sub) : super = sub := by
  rcases finite sub with ⟨path, root, ends⟩
  rcases Relation.ReflTransGen.cases_head up with same | ⟨base, step, rest⟩
  · exact same.symm
  · exact absurd (Relation.TransGen.head' step (rest.trans down)) (ends.not_turns .refl)

theorem isPartialOrder_isSuperTypeOf (finite : store.ChainsEnd) :
    IsPartialOrder TypeId fun super sub => store.isSuperTypeOf super sub = true where
  refl _ := (isSuperTypeOf_iff_reaches finite).mpr .refl
  trans _ _ _ upper lower := (isSuperTypeOf_iff_reaches finite).mpr <|
    ((isSuperTypeOf_iff_reaches finite).mp lower).trans
      ((isSuperTypeOf_iff_reaches finite).mp upper)
  antisymm _ _ up down := isSuperTypeOf_antisymm finite
    ((isSuperTypeOf_iff_reaches finite).mp up) ((isSuperTypeOf_iff_reaches finite).mp down)

/-- Of two supertypes of one type, the nearer one derives from the other. -/
theorem isSuperTypeOf_total (finite : store.ChainsEnd)
    (one : store.isSuperTypeOf first sub = true) (other : store.isSuperTypeOf second sub = true) :
    store.isSuperTypeOf first second = true ∨ store.isSuperTypeOf second first = true := by
  simp only [isSuperTypeOf_iff_reaches finite] at one other ⊢
  exact reaches_total other one

theorem isSuperTypeOf_iff_base? (finite : store.ChainsEnd) :
    store.isSuperTypeOf super sub = true ↔
      super = sub ∨ ∃ base, store.base? sub = some base ∧ store.isSuperTypeOf super base = true := by
  simp only [isSuperTypeOf_iff_reaches finite]
  constructor
  · exact fun reaches => (Relation.ReflTransGen.cases_head reaches).imp Eq.symm id
  · rintro (rfl | ⟨base, step, rest⟩)
    · exact .refl
    · exact .head step rest

/-! ## Other names -/

/-- The same types under other names. What is filed in the registry stays where it is. -/
def withNames (store : Store) (names : TypeId → TypeName) : Store :=
  { store with
    types := store.types.mapIdx fun position type => { type with name := names ⟨position⟩ } }

section

variable (names : TypeId → TypeName)

theorem type?_withNames (id : TypeId) :
    (store.withNames names).type? id =
      (store.type? id).map fun type => { type with name := names id } :=
  Array.getElem?_mapIdx

theorem holdsType_withNames (holder id : TypeId) :
    (store.withNames names).holdsType holder id = store.holdsType holder id := by
  rw [holdsType, type?_withNames, Option.any_map]
  rfl

theorem isAlive_withNames (id : TypeId) :
    (store.withNames names).isAlive id = store.isAlive id := by
  have size : (store.withNames names).types.size = store.types.size := Array.size_mapIdx
  rw [Bool.eq_iff_iff]
  constructor
  · exact isAlive_mono (Nat.le_of_eq size) (fun _ root => root) fun holder id holds =>
      holdsType_withNames names holder id ▸ holds
  · exact isAlive_mono (Nat.le_of_eq size.symm) (fun _ root => root) fun holder id holds =>
      (holdsType_withNames names holder id).trans holds

theorem resolve_withNames (reference : TypeRef) :
    (store.withNames names).resolve reference = store.resolve reference := by
  cases reference with
  | null | named | schema | direct => rfl
  | owner type target => rw [resolve, resolve, isAlive_withNames]

theorem base?_withNames : (store.withNames names).base? = store.base? := by
  funext id
  rw [base?, base?, type?_withNames]
  cases store.type? id with
  | none => rfl
  | some type => exact resolve_withNames names type.base

theorem isSuperTypeOf_withNames :
    (store.withNames names).isSuperTypeOf super sub = store.isSuperTypeOf super sub := by
  have ancestors (count : Nat) (id : TypeId) :
      (store.withNames names).ancestors count id = store.ancestors count id := by
    induction count generalizing id with
    | zero => rfl
    | succ count induction => simp only [Store.ancestors, base?_withNames, induction]
  rw [isSuperTypeOf, isSuperTypeOf, ancestors,
    show (store.withNames names).types.size = store.types.size from Array.size_mapIdx]

end

/-- Supertypes are a partial order of the types, in which the supertypes of one type are
comparable. A type is related to another one only through the base of the latter, and it
stays so whatever the types are called. -/
theorem isSuperTypeOf_order (finite : store.ChainsEnd) :
    IsPartialOrder TypeId (fun super sub => store.isSuperTypeOf super sub = true) ∧
    (∀ sub first second, store.isSuperTypeOf first sub = true →
      store.isSuperTypeOf second sub = true →
      store.isSuperTypeOf first second = true ∨ store.isSuperTypeOf second first = true) ∧
    (∀ super sub, store.isSuperTypeOf super sub = true ↔ super = sub ∨
      ∃ base, store.base? sub = some base ∧ store.isSuperTypeOf super base = true) ∧
    ∀ names super sub,
      (store.withNames names).isSuperTypeOf super sub = store.isSuperTypeOf super sub :=
  ⟨isPartialOrder_isSuperTypeOf finite, fun _ _ _ => isSuperTypeOf_total finite,
    fun _ _ => isSuperTypeOf_iff_base? finite, fun names _ _ => isSuperTypeOf_withNames names⟩

/-- Of two types of one name, only the one that the code derives from is above it. -/
theorem isSuperTypeOf_order_of_impostor :
    let derived (name : String) (base : TypeRef) : Operation :=
      .build ⟨⟨"s", name⟩, base, 0, .simple []⟩
    let text : TypeRef := .named Store.initial.registryId ⟨"system", "string"⟩
    let store := following [derived "short" text, derived "code" (.direct ⟨8⟩ ⟨"s", "short"⟩),
      derived "short" text]
    store.ChainsEnd ∧
    (store.type? ⟨8⟩).map DocumentType.name = (store.type? ⟨10⟩).map DocumentType.name ∧
    store.isSuperTypeOf ⟨8⟩ ⟨9⟩ = true ∧ store.isSuperTypeOf ⟨0⟩ ⟨9⟩ = true ∧
    (store.isSuperTypeOf ⟨8⟩ ⟨0⟩ = true ∨ store.isSuperTypeOf ⟨0⟩ ⟨8⟩ = true) ∧
    store.isSuperTypeOf ⟨9⟩ ⟨8⟩ = false ∧ store.isSuperTypeOf ⟨10⟩ ⟨9⟩ = false ∧
    store.isSuperTypeOf ⟨8⟩ ⟨10⟩ = false := by
  intro derived text store
  have finite : store.ChainsEnd := chainsEnd_of_ancestors 4 (by decide +kernel)
  have above : store.isSuperTypeOf ⟨8⟩ ⟨9⟩ = true := by decide +kernel
  have root : store.isSuperTypeOf ⟨0⟩ ⟨9⟩ = true := by decide +kernel
  have comparable := (isSuperTypeOf_order finite).2.1 ⟨9⟩ ⟨8⟩ ⟨0⟩ above root
  exact ⟨finite, by decide +kernel, above, root, comparable, by decide +kernel,
    by decide +kernel, by decide +kernel⟩

end DocumentTypes.Store
