import DocumentTypes.Proofs.Observation

/-! # Alike stores

When two stores are alike, looking at them gives the same answers. It is said once what
a likeness has to respect, and shown for every action that only looks at types. -/

namespace DocumentTypes

/-- The kinds under one id differ at most in what a complex type remembers. -/
inductive TypeKind.Alike : Option TypeKind → Option TypeKind → Prop
  | same (kind : Option TypeKind) : Alike kind kind
  | complex (complex : ComplexType) (lookups : Table String Field) :
      Alike (some (.complex complex)) (some (.complex { complex with lookups }))

theorem TypeKind.Alike.of_bare {left right : Option TypeKind}
    (same : left.map bare = right.map bare) : Alike left right := by
  rcases left with _ | left <;> rcases right with _ | right
  · exact .same none
  · cases same
  · cases same
  · have equal : left.bare = right.bare := Option.some.inj same
    cases left <;> cases right <;> simp only [bare, reduceCtorEq, TypeKind.complex.injEq,
      TypeKind.primitive.injEq, TypeKind.simple.injEq, TypeKind.composite.injEq,
      TypeKind.list.injEq] at equal
    case complex.complex left right =>
      have different : right = { left with lookups := right.lookups } := by
        cases left
        cases right
        simp_all
      rw [different]
      exact .complex left right.lookups
    all_goals
      rw [equal]
      exact .same _

namespace Store

/-- What a likeness of stores has to respect for looks to be alike. -/
structure Likeness (Alike : Store → Store → Prop) : Prop where
  size_eq : ∀ {left right}, Alike left right → left.types.size = right.types.size
  resolve_eq : ∀ {left right}, Alike left right →
    ∀ reference, left.resolve reference = right.resolve reference
  kind : ∀ {left right}, Alike left right → ∀ id,
    TypeKind.Alike ((left.type? id).map DocumentType.kind)
      ((right.type? id).map DocumentType.kind)
  noted : ∀ {left right}, Alike left right → ∀ notice,
    Alike (left.note notice) (right.note notice)
  merged : ∀ {left right}, Alike left right → ∀ {id old} composite,
    left.compositeAt? id = some old → right.compositeAt? id = some old →
    Alike (left.setKind id (.composite composite)) (right.setKind id (.composite composite))
  looked : ∀ {left right}, Alike left right → ∀ {id complex other} name,
    left.complexAt? id = some complex → right.complexAt? id = some other →
    (complex.lookUp name).2 = (other.lookUp name).2 ∧
      Alike (left.setKind id (.complex (complex.lookUp name).1))
        (right.setKind id (.complex (other.lookUp name).1))

namespace Likeness

variable {Alike : Store → Store → Prop} {left right : Store}

theorem complexAt? (likeness : Likeness Alike) (alike : Alike left right) (id : TypeId) :
    (∃ complex lookups, left.complexAt? id = some complex ∧
        right.complexAt? id = some { complex with lookups }) ∨
      left.complexAt? id = none ∧ right.complexAt? id = none := by
  have kinds := likeness.kind alike id
  rw [complexAt?_eq, complexAt?_eq]
  generalize (left.type? id).map DocumentType.kind = first at kinds ⊢
  generalize (right.type? id).map DocumentType.kind = second at kinds ⊢
  cases kinds with
  | complex complex lookups => exact .inl ⟨complex, lookups, rfl, rfl⟩
  | same =>
      cases first.bind TypeKind.complex? with
      | none => exact .inr ⟨rfl, rfl⟩
      | some complex => exact .inl ⟨complex, complex.lookups, rfl, rfl⟩

theorem compositeAt?_eq (likeness : Likeness Alike) (alike : Alike left right) (id : TypeId) :
    left.compositeAt? id = right.compositeAt? id := by
  have kinds := likeness.kind alike id
  rw [Store.compositeAt?_eq, Store.compositeAt?_eq]
  generalize (left.type? id).map DocumentType.kind = first at kinds ⊢
  generalize (right.type? id).map DocumentType.kind = second at kinds ⊢
  cases kinds with
  | complex => rfl
  | same => rfl

theorem space_eq (likeness : Likeness Alike) (alike : Alike left right) (id : TypeId) :
    (left.complexAt? id).map ComplexType.space = (right.complexAt? id).map ComplexType.space := by
  rcases likeness.complexAt? alike id with
    ⟨complex, lookups, leftFound, rightFound⟩ | ⟨leftFound, rightFound⟩
  · rw [leftFound, rightFound]
    rfl
  · rw [leftFound, rightFound]

end Likeness
end Store

namespace Action

open Store (Likeness)

variable {Alike : Store → Store → Prop}

theorem respects_resolve (likeness : Likeness Alike) (reference : TypeRef) :
    Respects Alike (resolve reference) :=
  fun _ _ alike => ⟨likeness.resolve_eq alike reference, alike⟩

theorem respects_note (likeness : Likeness Alike) (notice : Notice) :
    Respects Alike (note notice) :=
  fun _ _ alike => ⟨rfl, likeness.noted alike notice⟩

theorem respects_mergeSchema (likeness : Likeness Alike)
    {fieldsOf : TypeId → Action (List Field)} (each : ∀ id, Respects Alike (fieldsOf id))
    (snapshot : Snapshot) (entry : String × TypeRef) :
    Respects Alike (mergeSchema fieldsOf snapshot entry) := by
  refine .bind (respects_resolve likeness _) fun found => ?_
  cases found with
  | none => exact .bind (respects_note likeness _) fun _ => .pure _
  | some schema =>
      intro left right alike
      have spaces := likeness.space_eq alike schema
      have fields := each schema left right alike
      simp only [run_bind, run_type?, run_pure]
      refine ⟨?_, fields.2⟩
      rw [fields.1]
      change Snapshot.addSchema _ _ (((left.complexAt? schema).map _).elim _ _) _ =
        Snapshot.addSchema _ _ (((right.complexAt? schema).map _).elim _ _) _
      rw [spaces]

theorem respects_merge (likeness : Likeness Alike) {depth : Nat}
    (each : ∀ id, Respects Alike (fieldsWithin depth id)) {left right : Store}
    (alike : Alike left right) {id : TypeId} {composite : CompositeType}
    (found : left.compositeAt? id = some composite) :
    ((merge (fieldsWithin depth) id composite).run left).1 =
        ((merge (fieldsWithin depth) id composite).run right).1 ∧
      Alike ((merge (fieldsWithin depth) id composite).run left).2
        ((merge (fieldsWithin depth) id composite).run right).2 := by
  let start := { Snapshot.empty with
    generation := composite.merged.generation + 1
    revision := composite.requested }
  have folded := Respects.foldlM (respects_mergeSchema likeness each)
    composite.references.entries start left right alike
  have looked := Observes.foldlM (observes_mergeSchema (observes_fieldsWithin depth))
    composite.references.entries start left
  rcases looked.sameDeclared.compositeAt? found with ⟨merged, stillFound⟩
  simp only [merge, run_bind]
  rcases leftRun : (composite.references.entries.foldlM (mergeSchema (fieldsWithin depth))
    start).run left with ⟨snapshot, leftAfter⟩
  rcases rightRun : (composite.references.entries.foldlM (mergeSchema (fieldsWithin depth))
    start).run right with ⟨other, rightAfter⟩
  rw [leftRun] at stillFound
  rw [leftRun, rightRun] at folded
  cases folded.1
  have rightFound := (likeness.compositeAt?_eq folded.2 id).symm.trans stillFound
  exact ⟨rfl, likeness.merged (likeness.noted folded.2 _) _ stillFound rightFound⟩

theorem respects_fieldsWithin (likeness : Likeness Alike) :
    ∀ depth id, Respects Alike (fieldsWithin depth id) := by
  intro depth
  induction depth with
  | zero =>
      intro id left right alike
      have kinds := likeness.kind alike id
      unfold fieldsWithin
      simp only [run_bind, run_type?]
      generalize (left.type? id).map DocumentType.kind = first at kinds ⊢
      generalize (right.type? id).map DocumentType.kind = second at kinds ⊢
      cases kinds with
      | complex => exact ⟨rfl, alike⟩
      | same kind =>
          split
          · exact ⟨rfl, alike⟩
          · split
            · exact ⟨rfl, alike⟩
            · exact ⟨rfl, likeness.noted alike _⟩
          · exact ⟨rfl, alike⟩
  | succ depth induction =>
      intro id left right alike
      have kinds := likeness.kind alike id
      unfold fieldsWithin
      simp only [run_bind, run_type?]
      generalize leftKind : (left.type? id).map DocumentType.kind = first at kinds ⊢
      generalize (right.type? id).map DocumentType.kind = second at kinds ⊢
      cases kinds with
      | complex => exact ⟨rfl, alike⟩
      | same kind =>
          split
          · exact ⟨rfl, alike⟩
          next composite =>
            split
            · exact ⟨rfl, alike⟩
            · have merged := respects_merge likeness induction alike
                (Store.compositeAt?_of_kind leftKind)
              simp only [run_bind, run_pure]
              exact ⟨congrArg Snapshot.fields merged.1, merged.2⟩
          · exact ⟨rfl, alike⟩

theorem respects_snapshotOf (likeness : Likeness Alike) (id : TypeId) :
    Respects Alike (snapshotOf id) := by
  intro left right alike
  have composites := likeness.compositeAt?_eq alike id
  unfold Store.compositeAt? at composites
  simp only [snapshotOf, run_bind, run_type?]
  rw [composites]
  split
  · exact ⟨rfl, alike⟩
  next composite found =>
    split
    · exact ⟨rfl, alike⟩
    · rw [run_bind, run_bind, run_get, run_get, likeness.size_eq alike]
      exact respects_merge likeness (respects_fieldsWithin likeness _) alike
        (composites.trans found)

theorem respects_lookUp (likeness : Likeness Alike) (id : TypeId) (name : String) :
    Respects Alike (lookUp id name) := by
  intro left right alike
  have kinds := likeness.kind alike id
  have snapshots := respects_snapshotOf likeness id left right alike
  simp only [lookUp, run_bind, run_type?]
  generalize leftKind : (left.type? id).map DocumentType.kind = first at kinds ⊢
  generalize rightKind : (right.type? id).map DocumentType.kind = second at kinds ⊢
  cases kinds with
  | complex complex lookups =>
      exact likeness.looked alike name (Store.complexAt?_of_kind leftKind)
        (Store.complexAt?_of_kind rightKind)
  | same kind =>
      split
      · exact likeness.looked alike name (Store.complexAt?_of_kind leftKind)
          (Store.complexAt?_of_kind rightKind)
      · simp only [run_bind, run_pure]
        exact ⟨by rw [snapshots.1], snapshots.2⟩
      · exact ⟨rfl, alike⟩

theorem respects_element (likeness : Likeness Alike) (list : ListType) (segment : String) :
    Respects Alike (do
      match ← resolve list.item.valueType with
      | none => return none
      | some item =>
        if ((← type? item).bind DocumentType.complex?).isSome then lookUp item segment
        else if list.item.localName = segment then return some list.item
        else return none) := by
  refine .bind (respects_resolve likeness _) fun found => ?_
  cases found with
  | none => exact .pure _
  | some item =>
      intro left right alike
      have complexes := likeness.complexAt? alike item
      unfold Store.complexAt? at complexes
      simp only [run_bind, run_type?]
      rcases complexes with ⟨complex, lookups, leftFound, rightFound⟩ | ⟨leftFound, rightFound⟩
      · simp only [leftFound, rightFound, Option.isSome_some, if_true]
        exact respects_lookUp likeness item segment left right alike
      · simp only [leftFound, rightFound, Option.isSome_none, Bool.false_eq_true, if_false]
        split <;> exact ⟨rfl, alike⟩

theorem respects_step (likeness : Likeness Alike) (field : Field) (segment : String)
    (isLast : Bool) : Respects Alike (step field segment isLast) := by
  refine .bind (respects_resolve likeness _) fun valueType => ?_
  cases valueType with
  | none => exact .pure _
  | some valueType =>
      intro left right alike
      have kinds := likeness.kind alike valueType
      have looked := respects_lookUp likeness valueType segment left right alike
      simp only [run_bind, run_type?]
      generalize (left.type? valueType).map DocumentType.kind = first at kinds ⊢
      generalize (right.type? valueType).map DocumentType.kind = second at kinds ⊢
      cases kinds with
      | complex => exact looked
      | same kind =>
          split
          next list =>
            split
            · exact ⟨rfl, alike⟩
            · exact respects_element likeness list segment left right alike
          · exact looked
          · exact looked
          · exact ⟨rfl, alike⟩

theorem respects_walk (likeness : Likeness Alike) (segments : List String) (field : Field) :
    Respects Alike (walk field segments) := by
  induction segments generalizing field with
  | nil => exact .pure _
  | cons segment rest induction =>
      refine .bind (respects_step likeness _ _ _) fun next => ?_
      cases next with
      | none => exact .pure _
      | some next => exact induction next

end Action
end DocumentTypes
