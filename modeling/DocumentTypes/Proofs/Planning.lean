import DocumentTypes.Definition.Loading
import DocumentTypes.Proofs.Drafting
import DocumentTypes.Proofs.Running

/-! # Planning

Planning a document reads the store and gives notices. A plan that has been made holds
complete types only, and refers to nothing but what is registered or what it builds
itself. -/

namespace DocumentTypes

namespace Store

def Noted (before after : Store) : Prop := ∃ notices, after = { before with notices }

theorem Noted.refl (store : Store) : store.Noted store := ⟨store.notices, rfl⟩

theorem Noted.note {before after : Store} (noted : before.Noted after) (notice : Notice) :
    before.Noted (after.note notice) := by
  rcases noted with ⟨notices, rfl⟩
  exact ⟨notice :: notices, rfl⟩

end Store

namespace Action

theorem planSchemas_preserves_noted (origin : Store)
    (schemas : List (String × SchemaDefinition)) :
    Preserves origin.Noted (planSchemas schemas).run := by
  induction schemas with
  | nil => exact .pure _
  | cons entry rest induction =>
      refine .attempt_bind (fun _ noted => noted) fun store => ?_
      refine .attempt_bind (fun _ noted => noted) fun planned => ?_
      refine .attempt_bind (fun _ noted => noted.note _) fun _ => ?_
      exact .attempt_bind induction fun _ => .pure _

theorem plan_preserves_noted (origin : Store) (document : SchemaDocument) :
    Preserves origin.Noted (plan document).run := by
  refine .attempt_bind (planSchemas_preserves_noted origin _) fun planned => ?_
  refine .attempt_bind (fun _ noted => noted) fun store => ?_
  exact .attempt_bind (fun _ noted => noted) fun _ => .pure _

end Action

/-! ## What loading keeps -/

namespace Action.Preserves

variable {Invariant : Store → Prop}
  (load : ∀ document, Preserves Invariant (Attempt.load document).run)

include load

theorem loadText (text : String) : Preserves Invariant (Attempt.loadText text).run :=
  .attempt_bind (fun _ holds => holds) load

theorem loadFile (content : Option (List UInt8)) :
    Preserves Invariant (Attempt.loadFile content).run := by
  unfold Attempt.loadFile
  cases content with
  | none => exact .pure _
  | some bytes =>
      dsimp only
      split
      next text _ => exact loadText load text
      next => exact .pure _

end Action.Preserves

/-- What is kept by notices and by each thing that a document has built or registered. -/
structure Action.KeptByEntering (Invariant : Store → Prop) : Prop where
  noted : ∀ store notices, Invariant store → Invariant { store with notices }
  build : ∀ blueprint, Preserves Invariant (Attempt.build blueprint).run
  registerType : ∀ id, Preserves Invariant (registerType id)
  registerSchema : ∀ id, Preserves Invariant (Attempt.registerSchema id).run
  registerFacet : ∀ name schemas, Preserves Invariant (registerFacet name schemas)

namespace Action.KeptByEntering

variable {Invariant : Store → Prop} (kept : KeptByEntering Invariant)

include kept

theorem carryOut (plan : Plan) : Preserves Invariant (Attempt.carryOut plan).run := by
  refine .attempt_bind (.attempt_forM _ fun blueprint _ => ?_) fun _ => ?_
  · exact .attempt_bind (kept.build blueprint) kept.registerType
  · refine .attempt_bind (.attempt_forM _ fun blueprint _ => ?_) fun _ => ?_
    · exact .attempt_bind (kept.build blueprint) kept.registerSchema
    · refine .attempt_forM _ fun facet _ => ?_
      exact .attempt_bind (kept.registerFacet facet.1 facet.2) fun _ => .pure _

theorem load (document : SchemaDocument) : Preserves Invariant (Attempt.load document).run := by
  refine .attempt_bind (fun store holds => ?_) kept.carryOut
  rcases plan_preserves_noted store document store (.refl store) with ⟨notices, planned⟩
  rw [planned]
  exact kept.noted store notices holds

end Action.KeptByEntering

/-! ## What a plan refers to -/

open Drafting (AimsAt)

/-- A plan holds complete types that refer to registered types, to primitives and to each
other. -/
structure Plan.Sound (registry : Registry) (registryId : RegistryId) (plan : Plan) : Prop where
  schema : ∀ entry ∈ plan.schemas, ∃ space fields, entry.schema.body = .complex space none fields
  refers : ∀ entry ∈ plan.schemas, ∀ blueprint ∈ entry.types ++ [entry.schema],
    blueprint.Refers (AimsAt registry registryId (builtNames plan.schemas))

theorem Plan.checkQualified_ok {registry : Registry} {built qualified : List TypeName}
    (passed : checkQualified registry built qualified = .ok ()) :
    ∀ name ∈ qualified, name ∈ built ∨ registry.types.contains name = true := by
  induction qualified with
  | nil => exact fun _ member => by cases member
  | cons name rest induction =>
      change ((if (built.contains name || registry.types.contains name) = true then Except.ok ()
        else .error (Failure.unknownType name.schema name.name)) >>= fun _ =>
          checkQualified registry built rest) = _ at passed
      by_cases known : (built.contains name || registry.types.contains name) = true
      · rw [if_pos known] at passed
        intro other member
        rcases List.mem_cons.mp member with same | later
        · rw [same]
          exact (Bool.or_eq_true_iff.mp known).imp List.contains_iff_mem.mp id
        · exact induction passed other later
      · rw [if_neg known] at passed
        cases passed

namespace Action

theorem planSchemas_refers {schemas : List (String × SchemaDefinition)} {store after : Store}
    {plans : List SchemaPlan} {qualified : List TypeName}
    (planned : (planSchemas schemas).run.run store = (.ok (plans, qualified), after)) :
    ∀ entry ∈ plans, (∃ space fields, entry.schema.body = .complex space none fields) ∧
      ∀ blueprint ∈ entry.types ++ [entry.schema], blueprint.Refers
        (AimsAt store.registry store.registryId (Plan.builtNames plans ++ qualified)) := by
  induction schemas generalizing store plans qualified with
  | nil =>
      cases planned
      exact fun _ member => by cases member
  | cons schema rest induction =>
      unfold planSchemas at planned
      rcases Attempt.ok_of_run_bind planned with ⟨current, same, got, planned⟩
      cases got
      rcases Attempt.ok_of_run_bind planned with ⟨⟨first, used⟩, middle, drafted, planned⟩
      rw [Attempt.run_liftExcept] at drafted
      have draftedOk := congrArg Prod.fst drafted
      cases congrArg Prod.snd drafted
      rcases Attempt.ok_of_run_bind planned with ⟨_, noted, notedRun, planned⟩
      cases notedRun
      rcases Attempt.ok_of_run_bind planned with ⟨⟨others, more⟩, last, restRun, planned⟩
      cases planned
      have firstRefers := Drafting.schema_refers draftedOk
      have restRefers := induction restRun
      intro entry member
      rcases List.mem_cons.mp member with head | tail
      · rw [head]
        refine ⟨firstRefers.1, fun blueprint present => ?_⟩
        refine (firstRefers.2 blueprint present).mono fun _ aims => aims.mono fun name known => ?_
        rcases List.mem_append.mp known with built | used
        · refine .inl (List.mem_append_left _ (List.mem_flatMap.mpr ⟨first, ?_, ?_⟩))
          · exact List.mem_cons_self
          · exact List.mem_append_left _ built
        · exact .inl (List.mem_append_right _ (List.mem_append_left _ used))
      · refine ⟨(restRefers entry tail).1, fun blueprint present => ?_⟩
        refine ((restRefers entry tail).2 blueprint present).mono
          fun _ aims => aims.mono fun name known => ?_
        rcases List.mem_append.mp known with built | used
        · rcases List.mem_flatMap.mp built with ⟨other, otherMember, named⟩
          exact .inl (List.mem_append_left _ (List.mem_flatMap.mpr
            ⟨other, List.mem_cons_of_mem _ otherMember, named⟩))
        · exact .inl (List.mem_append_right _ (List.mem_append_right _ used))

/-- A plan that has been made is sound in the store that it was made in. -/
theorem plan_sound {document : SchemaDocument} {store after : Store} {plan : Plan}
    (planned : (Action.plan document).run.run store = (.ok plan, after)) :
    plan.Sound store.registry store.registryId := by
  unfold Action.plan at planned
  rcases Attempt.ok_of_run_bind planned with ⟨⟨schemas, qualified⟩, middle, schemasRun, planned⟩
  rcases planSchemas_preserves_noted store document.schemas store (.refl store) with
    ⟨notices, noted⟩
  rw [schemasRun] at noted
  cases noted
  rcases Attempt.ok_of_run_bind planned with ⟨current, same, got, planned⟩
  cases got
  rcases Attempt.ok_of_run_bind planned with ⟨_, checked, passed, planned⟩
  cases planned
  have refers := planSchemas_refers schemasRun
  have known := Plan.checkQualified_ok (congrArg Prod.fst passed)
  refine ⟨fun entry member => (refers entry member).1, fun entry member blueprint present => ?_⟩
  refine ((refers entry member).2 blueprint present).mono fun _ aims => aims.mono fun name own => ?_
  rcases List.mem_append.mp own with built | used
  · exact .inl built
  · exact known name used

end Action
end DocumentTypes
