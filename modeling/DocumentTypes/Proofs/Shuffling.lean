import DocumentTypes.Proofs.Numbering
import Mathlib.Logic.Equiv.Basic

/-! # Shuffling

Lists that hold the same values of each key in the same order come of each other by swapping
neighbours with different keys. Numbered from the same start on, their ids differ by a
permutation; and that permutation carries along what is last under each key. -/

namespace DocumentTypes

variable {α : Type u} {κ : Type} {key : α → κ}

/-- Values change places with neighbours of other keys. -/
inductive Shuffled (key : α → κ) : List α → List α → Prop
  | refl (values : List α) : Shuffled key values values
  | swap {first second : α} (apart : key first ≠ key second) (front back : List α) :
      Shuffled key (front ++ first :: second :: back) (front ++ second :: first :: back)
  | trans {first second third : List α} (before : Shuffled key first second)
      (after : Shuffled key second third) : Shuffled key first third

namespace Shuffled

variable {first second : List α}

theorem perm (shuffled : Shuffled key first second) : first.Perm second := by
  induction shuffled with
  | refl => exact .refl _
  | swap _ front back => exact (List.Perm.swap _ _ _).append_left front
  | trans _ _ before after => exact before.trans after

theorem cons (shuffled : Shuffled key first second) (value : α) :
    Shuffled key (value :: first) (value :: second) := by
  induction shuffled with
  | refl => exact .refl _
  | swap apart front back => exact .swap apart (value :: front) back
  | trans _ _ before after => exact before.trans after

theorem behind {value : α} {front : List α} (apart : ∀ other ∈ front, key value ≠ key other)
    (back : List α) : Shuffled key (value :: (front ++ back)) (front ++ value :: back) := by
  induction front with
  | nil => exact .refl _
  | cons other rest induction =>
      have here := Shuffled.swap (apart other List.mem_cons_self) [] (rest ++ back)
      have later := induction fun another member => apart another (List.mem_cons_of_mem _ member)
      exact here.trans (later.cons other)

/-- Two lists are shuffled if they hold the same values of each key in the same order. The
induction moves the first value of one list to its place in the other one. -/
theorem of_filter_eq [DecidableEq κ]
    (same : ∀ present, first.filter (key · = present) = second.filter (key · = present)) :
    Shuffled key first second := by
  induction first generalizing second with
  | nil =>
      cases second with
      | nil => exact .refl _
      | cons value rest =>
          have empty := same (key value)
          rw [List.filter_nil, List.filter_cons, if_pos (decide_eq_true rfl)] at empty
          cases empty
  | cons value rest induction =>
      have found := (same (key value)).symm
      rw [List.filter_cons, if_pos (decide_eq_true rfl)] at found
      rcases List.filter_eq_cons_iff.mp found with ⟨front, back, rfl, others, -, -⟩
      have apart : ∀ other ∈ front, key value ≠ key other := fun other member equal =>
        others other member (decide_eq_true equal.symm)
      have moved := behind apart back
      refine Shuffled.trans (cons (induction fun present => ?_) value) moved
      have here := same present
      rw [List.filter_append, List.filter_cons, List.filter_cons] at here
      rw [List.filter_append]
      by_cases own : key value = present
      · have none : front.filter (key · = present) = [] := by
          refine List.filter_eq_nil_iff.mpr fun other member => ?_
          rw [← own]
          exact others other member
        rw [if_pos (decide_eq_true own), if_pos (decide_eq_true own), none] at here
        rw [none]
        exact (List.cons.inj here).2
      · rwa [if_neg (by simpa using own), if_neg (by simpa using own)] at here

end Shuffled

theorem filter_eq_of_perm [DecidableEq κ] {first second : List α} (perm : first.Perm second)
    (nodup : (first.map key).Nodup) (present : κ) :
    first.filter (key · = present) = second.filter (key · = present) := by
  induction perm with
  | nil => rfl
  | cons value _ induction =>
      rw [List.map_cons, List.nodup_cons] at nodup
      rw [List.filter_cons, List.filter_cons, induction nodup.2]
  | swap one other rest =>
      rw [List.map_cons, List.map_cons, List.nodup_cons, List.mem_cons, not_or] at nodup
      simp only [List.filter_cons]
      by_cases isOne : key one = present
      · have notOther : ¬key other = present := fun same => nodup.1.1 (same.trans isOne.symm)
        simp [isOne, notOther]
      · simp [isOne]
  | trans earlier _ before after =>
      exact (before nodup).trans (after ((earlier.map key).nodup_iff.mp nodup))

theorem flatMap_eq_of_perm [DecidableEq κ] {β : Type} {first second : List α}
    (perm : first.Perm second) (nodup : (first.map key).Nodup) {part : α → List β} {present : κ}
    (others : ∀ value ∈ first, key value ≠ present → part value = []) :
    first.flatMap part = second.flatMap part := by
  have kept : ∀ values : List α, (∀ value ∈ values, key value ≠ present → part value = []) →
      values.flatMap part = (values.filter (key · = present)).flatMap part := by
    intro values
    induction values with
    | nil => exact fun _ => rfl
    | cons value rest induction =>
        intro empty
        have later := induction fun other member => empty other (List.mem_cons_of_mem _ member)
        rw [List.flatMap_cons, List.filter_cons, later]
        split
        · rfl
        next different =>
          rw [empty value List.mem_cons_self fun same => different (decide_eq_true same),
            List.nil_append]
  rw [kept first others, kept second fun value member => others value (perm.mem_iff.mpr member),
    filter_eq_of_perm perm nodup]

/-! ## Numbered values -/

/-- Keys of which no two values with different main keys have the same one. -/
def ToldBy (key : α → κ) (other? : α → Option γ) (values : List α) : Prop :=
  ∀ first ∈ values, ∀ second ∈ values, ∀ present,
    other? first = some present → other? second = some present → key first = key second

/-- A permutation of the given ids carries the values of one list to those of another one,
and so it carries whatever is last under a key. -/
structure Renumbers (key : α → κ) (start : Nat) (first second : List α)
    (change : Equiv.Perm TypeId) : Prop where
  fixed : ∀ id, id.position < start ∨ start + first.length ≤ id.position → change id = id
  moved : ∀ entry ∈ TypeId.number start first,
    (entry.1, change entry.2) ∈ TypeId.number start second
  last : ∀ {γ : Type} [DecidableEq γ] {other? : α → Option γ}, ToldBy key other? first →
    ∀ present, Entries.last? (Entries.keyed other? (TypeId.number start second)) present =
      (Entries.last? (Entries.keyed other? (TypeId.number start first)) present).map change

namespace Renumbers

variable {start : Nat} {first second : List α}

theorem refl (values : List α) : Renumbers key start values values (Equiv.refl TypeId) where
  fixed _ _ := rfl
  moved _ member := member
  last _ _ := Option.map_id'.symm

theorem trans {third : List α} {before after : Equiv.Perm TypeId} (perm : first.Perm second)
    (earlier : Renumbers key start first second before)
    (later : Renumbers key start second third after) :
    Renumbers key start first third (before.trans after) where
  fixed id outside := by
    have outsideLater : id.position < start ∨ start + second.length ≤ id.position := by
      rw [← perm.length_eq]
      exact outside
    rw [Equiv.trans_apply, earlier.fixed id outside, later.fixed id outsideLater]
  moved entry member := later.moved _ (earlier.moved entry member)
  last told present := by
    have toldLater := fun value member other otherMember =>
      told value (perm.mem_iff.mpr member) other (perm.mem_iff.mpr otherMember)
    rw [later.last toldLater, earlier.last told, Option.map_map]
    rfl

theorem swap_fixed {position : Nat} {id : TypeId} (notHere : id.position ≠ position)
    (notNext : id.position ≠ position + 1) :
    Equiv.swap (⟨position⟩ : TypeId) ⟨position + 1⟩ id = id := by
  refine Equiv.swap_apply_of_ne_of_ne ?_ ?_
  · rintro rfl
    exact notHere rfl
  · rintro rfl
    exact notNext rfl

theorem last?_swap {γ : Type} [DecidableEq γ] {other? : α → Option γ} {one other : α}
    (apart : ∀ shared, other? one = some shared → other? other ≠ some shared)
    {front back : List (α × TypeId)} {here next : TypeId}
    (before : ∀ entry ∈ front, Equiv.swap here next entry.2 = entry.2)
    (after : ∀ entry ∈ back, Equiv.swap here next entry.2 = entry.2) (present : γ) :
    Entries.last? (Entries.keyed other? (front ++ (other, here) :: (one, next) :: back)) present =
      (Entries.last? (Entries.keyed other? (front ++ (one, here) :: (other, next) :: back))
        present).map (Equiv.swap here next) := by
  have fixed : ∀ entries : List (α × TypeId),
      (∀ entry ∈ entries, Equiv.swap here next entry.2 = entry.2) →
      ∀ entry ∈ Entries.keyed other? entries, Equiv.swap here next entry.2 = entry.2 := by
    rintro entries stays ⟨_, id⟩ member
    rcases Entries.mem_keyed member with ⟨entry, entryMember, -, rfl⟩
    exact stays entry entryMember
  have middle : Entries.last? (Entries.keyed other? [(other, here), (one, next)]) present =
      (Entries.last? (Entries.keyed other? [(one, here), (other, next)]) present).map
        (Equiv.swap here next) := by
    rw [← Entries.last?_map, ← Entries.keyed_map, List.map_cons, List.map_singleton,
      Equiv.swap_apply_left, Equiv.swap_apply_right]
    exact Entries.last?_keyed_pair_comm apart present
  have parts : ∀ former latter : α,
      Entries.keyed other? (front ++ (former, here) :: (latter, next) :: back) =
        Entries.keyed other? front ++
          (Entries.keyed other? [(former, here), (latter, next)] ++
            Entries.keyed other? back) := by
    intro former latter
    rw [← Entries.keyed_append, ← Entries.keyed_append]
    rfl
  rw [parts, parts, Entries.last?_append, Entries.last?_append, Entries.last?_append,
    Entries.last?_append, middle, Option.map_or, Option.map_or,
    Entries.map_last?_of_fixed (fixed _ before), Entries.map_last?_of_fixed (fixed _ after)]

theorem swap {one other : α} (apart : key one ≠ key other) (front back : List α) :
    Renumbers key start (front ++ one :: other :: back) (front ++ other :: one :: back)
      (Equiv.swap ⟨start + front.length⟩ ⟨start + front.length + 1⟩) := by
  let here : TypeId := ⟨start + front.length⟩
  let next : TypeId := ⟨start + front.length + 1⟩
  have numbered : ∀ former latter : α,
      TypeId.number start (front ++ former :: latter :: back) = TypeId.number start front ++
        ((former, here) :: (latter, next) :: TypeId.number (start + front.length + 2) back) :=
    fun former latter => TypeId.number_append _ _ _
  have before : ∀ entry ∈ TypeId.number start front, Equiv.swap here next entry.2 = entry.2 := by
    intro entry member
    have bounds := TypeId.position_of_mem_number member
    exact swap_fixed (by omega) (by omega)
  have after : ∀ entry ∈ TypeId.number (start + front.length + 2) back,
      Equiv.swap here next entry.2 = entry.2 := by
    intro entry member
    have bounds := TypeId.position_of_mem_number member
    exact swap_fixed (by omega) (by omega)
  refine ⟨fun id outside => ?_, fun entry member => ?_, fun {γ} _ {other?} told present => ?_⟩
  · rw [List.length_append, List.length_cons, List.length_cons] at outside
    exact swap_fixed (by omega) (by omega)
  · rw [numbered] at member ⊢
    rcases List.mem_append.mp member with early | late
    · rw [before entry early]
      exact List.mem_append_left _ early
    refine List.mem_append_right _ ?_
    rcases List.mem_cons.mp late with rfl | late
    · rw [Equiv.swap_apply_left]
      exact List.mem_cons_of_mem _ List.mem_cons_self
    rcases List.mem_cons.mp late with rfl | late
    · rw [Equiv.swap_apply_right]
      exact List.mem_cons_self
    · rw [after entry late]
      exact List.mem_cons_of_mem _ (List.mem_cons_of_mem _ late)
  · have different (shared : γ) (first : other? one = some shared) :
        other? other ≠ some shared := fun second =>
      apart (told one (by simp) other (by simp) shared first second)
    rw [numbered, numbered]
    exact last?_swap different before after present

end Renumbers

/-- Shuffled lists are numbered alike, but for a permutation of the ids. -/
theorem Shuffled.renumbers {first second : List α} (shuffled : Shuffled key first second)
    (start : Nat) : ∃ change, Renumbers key start first second change := by
  induction shuffled with
  | refl values => exact ⟨_, .refl values⟩
  | swap apart front back => exact ⟨_, .swap apart front back⟩
  | trans before _ earlier later =>
      rcases earlier with ⟨change, earlier⟩
      rcases later with ⟨changeLater, later⟩
      exact ⟨_, earlier.trans before.perm later⟩

end DocumentTypes
