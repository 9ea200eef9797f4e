import DocumentTypes.Proofs.Consulting
import DocumentTypes.Proofs.PrimitiveChains

/-! # Consultation

To read, write and convert values has effects beyond those of looking at types: simple types
remember their primitives. These effects are the steps of a relation again, and what a
single search keeps is kept by all actions on values. -/

namespace DocumentTypes

namespace Store

variable {before after store : Store} {id primitive : TypeId} {trail path : List TypeId}

/-! ## Steps -/

/-- What reading, writing and converting values may do to a store. -/
inductive Consulted : Store → Store → Prop
  | observed {before after : Store} (observed : before.Observed after) : Consulted before after
  | recalled {store : Store} {id primitive : TypeId} {trail : List TypeId}
      (finds : store.Finds id trail primitive) : Consulted store (store.rememberAll trail primitive)
  | trans {first second third : Store} (before : Consulted first second)
      (after : Consulted second third) : Consulted first third

theorem Consulted.refl (store : Store) : store.Consulted store := .observed (.refl store)

theorem Consulted.sameDeclared (consulted : before.Consulted after) :
    before.SameDeclared after := by
  induction consulted with
  | observed observed => exact observed.sameDeclared
  | recalled => exact sameDeclared_rememberAll _ _ _
  | trans _ _ first second => exact Eq.trans first second

theorem Consulted.remembered? (consulted : before.Consulted after)
    (known : before.remembered? id = some primitive) : after.remembered? id = some primitive := by
  induction consulted with
  | observed observed => exact (observed.lasting.remembered?_eq id).trans known
  | recalled finds =>
      rw [finds.remembered?_rememberAll, if_neg fun member => ?_]
      · exact known
      · rcases finds.of_mem member with ⟨_, simple, _, _, found, unknown⟩
        rw [remembered?_eq_bind, found, Option.bind_some, unknown] at known
        cases known
  | trans _ _ first second => exact second (first known)

/-! ## What is remembered -/

def RemembersPrimitives (store : Store) : Prop :=
  ∀ id primitive, store.remembered? id = some primitive →
    ∃ kind, store.primitiveAt? primitive = some kind

theorem Finds.primitiveAt? (remembers : store.RemembersPrimitives)
    (finds : store.Finds id trail primitive) :
    ∃ kind, store.primitiveAt? primitive = some kind := by
  induction finds with
  | primitive found => exact ⟨_, found⟩
  | remembered known => exact remembers _ _ known
  | searched _ _ _ _ induction => exact induction

theorem RemembersPrimitives.consulted (remembers : before.RemembersPrimitives)
    (consulted : before.Consulted after) : after.RemembersPrimitives := by
  induction consulted with
  | observed observed =>
      intro id primitive known
      rw [observed.lasting.remembered?_eq] at known
      rcases remembers id primitive known with ⟨kind, found⟩
      exact ⟨kind, observed.sameDeclared.primitiveAt? found⟩
  | @recalled store id primitive trail finds =>
      intro other answer known
      have primitives : ∃ kind, store.primitiveAt? answer = some kind := by
        rw [finds.remembered?_rememberAll] at known
        split at known
        · cases known
          exact finds.primitiveAt? remembers
        · exact remembers other answer known
      rcases primitives with ⟨kind, found⟩
      exact ⟨kind, (sameDeclared_rememberAll store trail primitive).primitiveAt? found⟩
  | trans _ _ first second => exact second (first remembers)

/-- Whatever a type remembers is what it derives from, if it derives from a primitive. -/
def RemembersDerived (store : Store) : Prop :=
  ∀ id known path primitive, store.remembered? id = some known →
    store.Derives id path primitive → primitive = known

theorem Derives.findSome?_getD (remembers : store.RemembersDerived)
    (derives : store.Derives id path primitive) :
    (path.findSome? store.remembered?).getD primitive = primitive := by
  induction derives with
  | primitive => rfl
  | @simple id base primitive type simple path found isSimple forward base_eq rest induction =>
      rw [List.findSome?_cons]
      cases known : store.remembered? id with
      | none => exact induction
      | some other =>
          exact (remembers id other _ primitive known
            (.simple found isSimple forward base_eq rest)).symm

theorem RemembersDerived.consulted (remembers : before.RemembersDerived)
    (consulted : before.Consulted after) : after.RemembersDerived := by
  induction consulted with
  | observed observed =>
      intro id known path primitive remembered derives
      rw [observed.lasting.remembered?_eq] at remembered
      exact remembers id known path primitive remembered
        (observed.sameDeclared.symm.derives derives)
  | @recalled store id primitive trail finds =>
      intro other known path last remembered derives
      have earlier := (sameDeclared_rememberAll store trail primitive).symm.derives derives
      rw [finds.remembered?_rememberAll] at remembered
      split at remembered
      next member =>
        cases remembered
        rcases finds.of_mem member with ⟨_, _, otherFinds, -⟩
        have again := earlier.finds
        rw [earlier.findSome?_getD remembers] at again
        exact (again.unique otherFinds).2
      next => exact remembers other known path last remembered earlier
  | trans _ _ first second => exact second (first remembers)

end Store

/-! ## Actions that consult -/

def Action.Consults {α : Type} (action : Action α) : Prop :=
  ∀ store, Store.Consulted store (action.run store).2

namespace Action

namespace Consults

variable {α : Type}

theorem preserves {action : Action α} (consults : Consults action) (start : Store) :
    Preserves start.Consulted action := fun _ reached => reached.trans (consults _)

theorem of_preserves {action : Action α}
    (kept : ∀ start : Store, Preserves start.Consulted action) : Consults action :=
  fun store => kept store store (.refl store)

end Consults

theorem Observes.consults {α : Type} {action : Action α} (observes : Observes action) :
    Consults action := fun store => .observed (observes store)

theorem consults_primitiveOf (id : TypeId) : Consults (primitiveOf id) := by
  intro store
  rcases run_primitiveOf id store with ⟨trail, primitive, finds, run⟩ | ⟨run, -⟩
  · rw [run]
    exact .recalled finds
  · rw [run]
    exact .refl store

theorem keptByConsulting_consulted (start : Store) : KeptByConsulting start.Consulted where
  note notice := (observes_note notice).consults.preserves start
  lookUp id name := (observes_lookUp id name).consults.preserves start
  snapshotOf id := (observes_snapshotOf id).consults.preserves start
  primitiveOf id := (consults_primitiveOf id).preserves start

theorem consults_decode (id : TypeId) (text : Option String) :
    Consults (Attempt.decode id text).run :=
  .of_preserves fun start => (keptByConsulting_consulted start).decode id text

theorem consults_encode (value : Value) (id : TypeId) : Consults (encode value id) :=
  .of_preserves fun start => (keptByConsulting_consulted start).encode value id

theorem consults_convert (value : Value) (id : TypeId) :
    Consults (Attempt.convert value id).run :=
  .of_preserves fun start => (keptByConsulting_consulted start).convert value id

end Action
end DocumentTypes
