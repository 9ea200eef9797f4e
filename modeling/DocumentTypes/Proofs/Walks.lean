import Mathlib.Data.List.Nodup
import Mathlib.Data.Set.Finite.Basic
import Mathlib.Logic.Relation
import Mathlib.Order.WellFounded

/-! # Walks

From each place there is at most one way on. A walk comes to an end, or else, if only
finitely many places lead on, it comes to a place that leads back to itself. -/

namespace DocumentTypes

variable {α : Type} {next early late : α → Option α} {place other first second : α}
  {path : List α}

/-- A walk that ends: the places on the way, and the last one, which leads nowhere. -/
inductive Ends (next : α → Option α) : α → List α → α → Prop
  | here {place : α} (stop : next place = none) : Ends next place [] place
  | on {place other last : α} {path : List α} (step : next place = some other)
      (rest : Ends next other path last) : Ends next place (place :: path) last

def LeadsTo (next : α → Option α) (place other : α) : Prop := next place = some other

abbrev Reaches (next : α → Option α) : α → α → Prop := Relation.ReflTransGen (LeadsTo next)

def Turns (next : α → Option α) (place : α) : Prop := Relation.TransGen (LeadsTo next) place place

namespace Ends

theorem onward {last : α} (ends : Ends next place path last) (step : next place = some other) :
    ∃ rest, path = place :: rest ∧ Ends next other rest last := by
  cases ends with
  | here stop =>
      rw [stop] at step
      cases step
  | on same rest =>
      cases same.symm.trans step
      exact ⟨_, rfl, rest⟩

theorem unique {last otherLast : α} {otherPath : List α} (ends : Ends next place path last)
    (again : Ends next place otherPath otherLast) : path = otherPath ∧ last = otherLast := by
  induction ends generalizing otherPath with
  | here stop =>
      cases again with
      | here => exact ⟨rfl, rfl⟩
      | on step =>
          rw [stop] at step
          cases step
  | on step _ induction =>
      rcases again.onward step with ⟨rest, rfl, restEnds⟩
      rcases induction restEnds with ⟨rfl, rfl⟩
      exact ⟨rfl, rfl⟩

theorem of_reaches {last : α} (ends : Ends next place path last)
    (reaches : Reaches next place other) :
    ∃ rest, Ends next other rest last ∧ rest.length ≤ path.length := by
  induction reaches with
  | refl => exact ⟨path, ends, Nat.le_refl _⟩
  | tail _ step induction =>
      rcases induction with ⟨middle, middleEnds, shorter⟩
      rcases middleEnds.onward step with ⟨rest, rfl, restEnds⟩
      exact ⟨rest, restEnds, Nat.le_of_succ_le shorter⟩

theorem not_turns {last : α} (ends : Ends next place path last)
    (reaches : Reaches next place other) : ¬Turns next other := by
  intro turns
  rcases ends.of_reaches reaches with ⟨rest, otherEnds, -⟩
  rcases Relation.TransGen.head'_iff.mp turns with ⟨after, step, back⟩
  rcases otherEnds.onward step with ⟨further, rfl, restEnds⟩
  rcases restEnds.of_reaches back with ⟨again, againEnds, shorter⟩
  rcases againEnds.unique otherEnds with ⟨rfl, -⟩
  exact absurd shorter (Nat.not_succ_le_self _)

theorem leads_of_mem {last : α} (ends : Ends next place path last) (member : other ∈ path) :
    Reaches next place other ∧ (next other).isSome = true := by
  induction ends with
  | here => cases member
  | on step _ induction =>
      rcases List.mem_cons.mp member with rfl | later
      · exact ⟨.refl, Option.isSome_iff_exists.mpr ⟨_, step⟩⟩
      · exact ⟨.head step (induction later).1, (induction later).2⟩

theorem mem_iff_reaches {last : α} (ends : Ends next place path last) :
    other ∈ path ++ [last] ↔ Reaches next place other := by
  constructor
  · intro member
    induction ends with
    | here => exact List.mem_singleton.mp member ▸ .refl
    | on step _ induction =>
        rcases List.mem_cons.mp member with rfl | later
        · exact .refl
        · exact .head step (induction later)
  · intro reaches
    induction ends with
    | here stop =>
        rcases Relation.ReflTransGen.cases_head reaches with rfl | ⟨onward, step, -⟩
        · exact List.mem_singleton_self _
        · cases stop.symm.trans step
    | on step _ induction =>
        rcases Relation.ReflTransGen.cases_head reaches with rfl | ⟨onward, same, rest⟩
        · exact List.mem_cons_self
        · cases step.symm.trans same
          exact List.mem_cons_of_mem _ (induction rest)

theorem nodup {last : α} (ends : Ends next place path last) : path.Nodup := by
  induction ends with
  | here => exact List.nodup_nil
  | @on place other last path step rest induction =>
      refine List.nodup_cons.mpr ⟨fun member => ?_, induction⟩
      have turns : Turns next place := .head' step (rest.leads_of_mem member).1
      exact (on step rest).not_turns .refl turns

theorem of_fewer {last : α} (fewer : ∀ place other, late place = some other →
    early place = some other) (ends : Ends early place path last) :
    ∃ shorter end_, Ends late place shorter end_ ∧ shorter.length ≤ path.length := by
  induction ends with
  | @here place stop =>
      refine ⟨[], place, .here ?_, Nat.le_refl _⟩
      cases step : late place with
      | none => rfl
      | some other => rw [fewer place other step] at stop; cases stop
  | @on place other last path step rest induction =>
      cases lateStep : late place with
      | none => exact ⟨[], place, .here lateStep, Nat.zero_le _⟩
      | some later =>
          cases step.symm.trans (fewer place later lateStep)
          rcases induction with ⟨shorter, end_, ends, length⟩
          exact ⟨_, end_, .on lateStep ends, Nat.succ_le_succ length⟩

end Ends

theorem reaches_total (one : Reaches next place first) (two : Reaches next place second) :
    Reaches next first second ∨ Reaches next second first :=
  Relation.ReflTransGen.total_of_right_unique
    (fun _ _ _ left right => Option.some.inj (left.symm.trans right)) one two

theorem forall_reaches_iff {holds : α → Prop} :
    (∀ other, Reaches next place other → holds other) ↔
      holds place ∧ ∀ onward ∈ next place, ∀ other, Reaches next onward other → holds other := by
  constructor
  · exact fun all => ⟨all place .refl, fun onward step other reaches =>
      all other (.head step reaches)⟩
  · rintro ⟨here, later⟩ other reaches
    rcases Relation.ReflTransGen.cases_head reaches with rfl | ⟨onward, step, rest⟩
    · exact here
    · exact later onward step other rest

/-- If only finitely many places lead on, then every walk ends or goes round. -/
theorem exists_ends_of_not_turns (few : {place | (next place).isSome = true}.Finite)
    (straight : ∀ other, Reaches next place other → ¬Turns next other) :
    ∃ path last, Ends next place path last := by
  let Passed := {other : α // (next other).isSome = true ∧ Reaches next place other}
  have finite : Finite Passed := few.subset fun _ passed => passed.1
  let follows (later earlier : Passed) : Prop :=
    Relation.TransGen (LeadsTo next) earlier.1 later.1
  have transitive : IsTrans Passed follows := ⟨fun _ _ _ later earlier => earlier.trans later⟩
  have irreflexive : Std.Irrefl follows := ⟨fun passed => straight passed.1 passed.2.2⟩
  have wellFounded : WellFounded follows := Finite.wellFounded_of_trans_of_irrefl follows
  have fromPassed (passed : Passed) : ∃ path last, Ends next passed.1 path last := by
    induction passed using wellFounded.induction with
    | _ passed induction =>
        rcases Option.isSome_iff_exists.mp passed.2.1 with ⟨other, step⟩
        cases onward : next other with
        | none => exact ⟨_, _, .on step (.here onward)⟩
        | some further =>
            have reached : Reaches next place other := passed.2.2.tail step
            have leads : (next other).isSome = true := Option.isSome_iff_exists.mpr ⟨_, onward⟩
            rcases induction ⟨other, leads, reached⟩ (.single step) with ⟨path, last, ends⟩
            exact ⟨_, _, .on step ends⟩
  cases step : next place with
  | none => exact ⟨_, _, .here step⟩
  | some other => exact fromPassed ⟨place, Option.isSome_iff_exists.mpr ⟨other, step⟩, .refl⟩

theorem Turns.back (turns : Turns next place) (reaches : Reaches next place other) :
    Reaches next other place := by
  induction reaches with
  | refl => exact .refl
  | tail _ step induction =>
      rcases Relation.ReflTransGen.cases_head induction with rfl | ⟨after, sameStep, rest⟩
      · rcases Relation.TransGen.head'_iff.mp turns with ⟨after, sameStep, rest⟩
        cases Option.some.inj (step.symm.trans sameStep)
        exact rest
      · cases Option.some.inj (step.symm.trans sameStep)
        exact rest

theorem Turns.of_reaches (turns : Turns next place) (reaches : Reaches next place other) :
    Turns next other := by
  have back := turns.back reaches
  rcases Relation.ReflTransGen.cases_head back with rfl | ⟨after, step, rest⟩
  · exact turns
  · exact .head' step (rest.trans reaches)

/-! ## More places

Some places are fresh. The others lead where they led before, or to fresh ones. -/

section

variable {fresh : α → Prop}
  (kept : ∀ place other, ¬fresh place → late place = some other →
    fresh other ∨ early place = some other)

include kept

theorem exists_fresh_of_turns {last : α} (ended : Ends early place path last)
    (turns : Turns late place) : ∃ turn, fresh turn ∧ Reaches late place turn := by
  induction ended with
  | @here place stop =>
      by_cases isFresh : fresh place
      · exact ⟨place, isFresh, .refl⟩
      rcases Relation.TransGen.head'_iff.mp turns with ⟨after, step, -⟩
      rcases kept place after isFresh step with later | same
      · exact ⟨after, later, .single step⟩
      · rw [stop] at same
        cases same
  | @on place other last path before _ induction =>
      by_cases isFresh : fresh place
      · exact ⟨place, isFresh, .refl⟩
      rcases Relation.TransGen.head'_iff.mp turns with ⟨after, step, -⟩
      rcases kept place after isFresh step with later | same
      · exact ⟨after, later, .single step⟩
      · cases before.symm.trans same
        rcases induction (turns.of_reaches (.single step)) with ⟨turn, isFresh, reaches⟩
        exact ⟨turn, isFresh, .head step reaches⟩

/-- Now a walk ends just if it comes to no fresh place that leads back to itself. -/
theorem ends_iff_no_fresh_turns (few : {place | (late place).isSome = true}.Finite)
    (onward : ∀ place other, fresh place → late place = some other →
      fresh other ∨ ∃ path last, Ends early other path last)
    (start : fresh place ∨ ∃ path last, Ends early place path last) :
    (∃ path last, Ends late place path last) ↔
      ¬∃ turn, fresh turn ∧ Reaches late place turn ∧ Turns late turn := by
  constructor
  · rintro ⟨path, last, ends⟩ ⟨turn, -, reaches, turns⟩
    exact ends.not_turns reaches turns
  · intro straight
    refine exists_ends_of_not_turns few fun other reaches turns => straight ?_
    have known : fresh other ∨ ∃ path last, Ends early other path last := by
      clear turns
      induction reaches with
      | refl => exact start
      | @tail middle other _ step induction =>
          by_cases isFresh : fresh middle
          · exact onward middle other isFresh step
          rcases kept middle other isFresh step with later | same
          · exact .inl later
          · rcases induction.resolve_left isFresh with ⟨path, last, ends⟩
            rcases ends.onward same with ⟨rest, -, restEnds⟩
            exact .inr ⟨rest, last, restEnds⟩
    rcases known with isFresh | ⟨path, last, ended⟩
    · exact ⟨other, isFresh, reaches, turns⟩
    · rcases exists_fresh_of_turns kept ended turns with ⟨turn, isFresh, onward⟩
      exact ⟨turn, isFresh, reaches.trans onward, turns.of_reaches onward⟩

end

end DocumentTypes
