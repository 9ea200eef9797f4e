import DocumentTypes.Store.Basic
import Mathlib.Data.List.Basic
import Mathlib.Data.List.Induction

/-! # Numbering

Types that are built one after the other get consecutive ids. What a table holds after
many entries have been put into it is decided by the last entry of each key. -/

namespace DocumentTypes

/-! ## Last entries -/

namespace Entries

variable {κ : Type u} {α : Type v} {β : Type w} [DecidableEq κ]

def last? : List (κ × α) → κ → Option α
  | [], _ => none
  | (present, value) :: rest, key =>
    (last? rest key).or (if present = key then some value else none)

theorem last?_append (front back : List (κ × α)) (key : κ) :
    last? (front ++ back) key = (last? back key).or (last? front key) := by
  induction front with
  | nil => simp [last?]
  | cons entry rest induction => rw [List.cons_append, last?, last?, induction, Option.or_assoc]

theorem last?_map (entries : List (κ × α)) (change : α → β) (key : κ) :
    last? (entries.map fun entry => (entry.1, change entry.2)) key =
      (last? entries key).map change := by
  induction entries with
  | nil => rfl
  | cons entry rest induction =>
      rw [List.map_cons, last?, last?, induction, Option.map_or]
      split <;> rfl

theorem mem_of_last? {entries : List (κ × α)} {key : κ} {value : α}
    (found : last? entries key = some value) : (key, value) ∈ entries := by
  induction entries with
  | nil => cases found
  | cons entry rest induction =>
      rw [last?, Option.or_eq_some_iff] at found
      rcases found with later | ⟨-, here⟩
      · exact List.mem_cons_of_mem _ (induction later)
      · split at here
        next same =>
          cases here
          exact same ▸ List.mem_cons_self
        next => cases here

theorem last?_isSome_iff {entries : List (κ × α)} {key : κ} :
    (last? entries key).isSome = true ↔ key ∈ entries.map Prod.fst := by
  induction entries with
  | nil => simp [last?]
  | cons entry rest induction =>
      rw [last?, Option.isSome_or, Bool.or_eq_true, induction, List.map_cons, List.mem_cons,
        or_comm]
      by_cases same : entry.1 = key
      · simp [same]
      · simp [same, Ne.symm same]

theorem last?_eq_none_iff {entries : List (κ × α)} {key : κ} :
    last? entries key = none ↔ key ∉ entries.map Prod.fst := by
  rw [← last?_isSome_iff, Option.not_isSome_iff_eq_none]

theorem last?_of_mem {entries : List (κ × α)} {key : κ} {value : α}
    (nodup : (entries.map Prod.fst).Nodup) (member : (key, value) ∈ entries) :
    last? entries key = some value := by
  rcases List.append_of_mem member with ⟨front, back, rfl⟩
  rw [List.map_append, List.map_cons] at nodup
  have alone : key ∉ back.map Prod.fst :=
    (List.nodup_cons.mp (List.nodup_append.mp nodup).2.1).1
  rw [last?_append, last?, last?_eq_none_iff.mpr alone, if_pos rfl]
  rfl

theorem last?_perm {first second : List (κ × α)} (perm : first.Perm second)
    (nodup : (first.map Prod.fst).Nodup) (key : κ) : last? first key = last? second key := by
  cases found : last? second key with
  | none =>
      rw [last?_eq_none_iff] at found ⊢
      exact fun member => found ((perm.map Prod.fst).mem_iff.mp member)
  | some value => exact last?_of_mem nodup (perm.mem_iff.mpr (mem_of_last? found))

theorem map_last?_of_fixed {entries : List (κ × α)} {change : α → α}
    (fixed : ∀ entry ∈ entries, change entry.2 = entry.2) (key : κ) :
    (last? entries key).map change = last? entries key := by
  cases found : last? entries key with
  | none => rfl
  | some value => exact congrArg some (fixed _ (mem_of_last? found))

theorem last?_pair_comm {first second : κ × α} (apart : first.1 ≠ second.1) (key : κ) :
    last? [second, first] key = last? [first, second] key := by
  unfold last?
  by_cases one : first.1 = key <;> by_cases other : second.1 = key
  · exact absurd (one.trans other.symm) apart
  all_goals simp [last?, one, other]

/-! ## Entries under keys of their own -/

variable {γ : Type x}

/-- The values of those entries that have a key, under it. -/
def keyed (key? : α → Option κ) (entries : List (α × β)) : List (κ × β) :=
  entries.filterMap fun entry => (key? entry.1).map fun key => (key, entry.2)

omit [DecidableEq κ] in
theorem keyed_append (key? : α → Option κ) (front back : List (α × β)) :
    keyed key? (front ++ back) = keyed key? front ++ keyed key? back :=
  List.filterMap_append

omit [DecidableEq κ] in
theorem keyed_map (key? : α → Option κ) (change : β → γ) (entries : List (α × β)) :
    keyed key? (entries.map fun entry => (entry.1, change entry.2)) =
      (keyed key? entries).map fun entry => (entry.1, change entry.2) := by
  unfold keyed
  rw [List.filterMap_map, List.map_filterMap]
  congr 1
  funext entry
  rw [Option.map_map]
  rfl

omit [DecidableEq κ] in
theorem map_fst_keyed (key? : α → Option κ) (entries : List (α × β)) :
    (keyed key? entries).map Prod.fst = (entries.map Prod.fst).filterMap key? := by
  unfold keyed
  rw [List.map_filterMap, List.filterMap_map]
  congr 1
  funext entry
  rw [Option.map_map]
  exact Option.map_id'

omit [DecidableEq κ] in
theorem mem_keyed {key? : α → Option κ} {entries : List (α × β)} {key : κ} {value : β}
    (member : (key, value) ∈ keyed key? entries) :
    ∃ entry ∈ entries, key? entry.1 = some key ∧ entry.2 = value := by
  rcases List.mem_filterMap.mp member with ⟨entry, present, named⟩
  rcases Option.map_eq_some_iff.mp named with ⟨_, found, same⟩
  cases same
  exact ⟨entry, present, found, rfl⟩

theorem last?_keyed_pair_comm {key? : α → Option κ} {first second : α × β}
    (apart : ∀ key, key? first.1 = some key → key? second.1 ≠ some key) (key : κ) :
    last? (keyed key? [second, first]) key = last? (keyed key? [first, second]) key := by
  unfold keyed
  cases one : key? first.1 with
  | none => simp [List.filterMap_cons, one]
  | some firstKey =>
      cases other : key? second.1 with
      | none => simp [one, other]
      | some secondKey =>
          have different : firstKey ≠ secondKey := fun same => apart firstKey one (same ▸ other)
          simp only [List.filterMap_cons, List.filterMap_nil, one, other, Option.map_some]
          exact last?_pair_comm different key

end Entries

namespace Table

variable {κ : Type u} {α : Type v} [DecidableEq κ]

def putAll (table : Table κ α) (entries : List (κ × α)) : Table κ α :=
  entries.foldl (fun table entry => table.put entry.1 entry.2) table

theorem putAll_append (table : Table κ α) (front back : List (κ × α)) :
    table.putAll (front ++ back) = (table.putAll front).putAll back :=
  List.foldl_append

theorem get?_putAll (table : Table κ α) (entries : List (κ × α)) (key : κ) :
    (table.putAll entries).get? key = (Entries.last? entries key).or (table.get? key) := by
  induction entries generalizing table with
  | nil => rfl
  | cons entry rest induction =>
      have later := induction (table.put entry.1 entry.2)
      rw [get?_put] at later
      change ((table.put entry.1 entry.2).putAll rest).get? key = _
      rw [later, Entries.last?, Option.or_assoc]
      split <;> rfl

theorem entries_eq_filterMap_keys (table : Table κ α) :
    table.entries = table.keys.filterMap fun key => (table.get? key).map (key, ·) := by
  rcases table with ⟨entries, nodup⟩
  unfold keys get?
  induction entries with
  | nil => rfl
  | cons entry rest induction =>
      rcases entry with ⟨key, value⟩
      rw [List.map_cons, List.nodup_cons] at nodup
      have others : (rest.map Prod.fst).filterMap
          (fun other => (Entries.get? ((key, value) :: rest) other).map (other, ·)) =
          (rest.map Prod.fst).filterMap fun other => (Entries.get? rest other).map (other, ·) := by
        refine List.filterMap_congr fun other member => ?_
        have different : key ≠ other := by
          rintro rfl
          exact nodup.1 member
        rw [Entries.get?, if_neg different]
      dsimp only
      rw [List.map_cons, List.filterMap_cons, Entries.get?, if_pos rfl, others]
      exact congrArg ((key, value) :: ·) (induction nodup.2)

theorem keys_putAll (table : Table κ α) (entries : List (κ × α)) :
    (table.putAll entries).keys =
      table.keys ++ ((entries.map Prod.fst).filter (· ∉ table.keys)).eraseDups := by
  induction entries using List.reverseRecOn with
  | nil => exact (List.append_nil _).symm
  | append_singleton entries entry induction =>
      have put : (table.putAll (entries ++ [entry])).keys =
          if entry.1 ∈ (table.putAll entries).keys then (table.putAll entries).keys
          else (table.putAll entries).keys ++ [entry.1] := by
        rw [putAll_append]
        exact Entries.keys_put _ _ _
      rw [put, induction, List.map_append, List.filter_append, List.eraseDups_append,
        List.map_singleton, List.filter_singleton]
      by_cases old : entry.1 ∈ table.keys
      · simp [old, List.removeAll]
      · by_cases seen : entry.1 ∈ entries.map Prod.fst
        · simp [old, seen, List.removeAll]
        · simp [old, seen, List.removeAll, List.eraseDups_cons]

theorem keys_empty_putAll (entries : List (κ × α)) :
    (Table.empty.putAll entries).keys = (entries.map Prod.fst).eraseDups := by
  rw [keys_putAll]
  simp [keys, empty]

end Table

/-! ## Consecutive ids -/

namespace TypeId

variable {α : Type u} {β : Type v}

def number : Nat → List α → List (α × TypeId)
  | _, [] => []
  | start, value :: rest => (value, ⟨start⟩) :: number (start + 1) rest

@[simp] theorem map_fst_number (start : Nat) (values : List α) :
    (number start values).map Prod.fst = values := by
  induction values generalizing start with
  | nil => rfl
  | cons value rest induction => simp [number, induction]

theorem number_append (start : Nat) (front back : List α) :
    number start (front ++ back) = number start front ++ number (start + front.length) back := by
  induction front generalizing start with
  | nil => rfl
  | cons value rest induction =>
      rw [List.cons_append, number, number, induction, List.cons_append, List.length_cons,
        Nat.add_assoc, Nat.add_comm 1]

theorem position_of_mem_number {start : Nat} {values : List α} {entry : α × TypeId}
    (member : entry ∈ number start values) :
    start ≤ entry.2.position ∧ entry.2.position < start + values.length := by
  induction values generalizing start with
  | nil => cases member
  | cons value rest induction =>
      rcases List.mem_cons.mp member with rfl | later
      · simp
      · have bounds := induction later
        rw [List.length_cons]
        omega

theorem mem_number_of_position {start : Nat} {values : List α} {id : TypeId}
    (later : start ≤ id.position) (inside : id.position < start + values.length) :
    ∃ value, (value, id) ∈ number start values := by
  induction values generalizing start with
  | nil =>
      rw [List.length_nil] at inside
      omega
  | cons value rest induction =>
      rw [List.length_cons] at inside
      by_cases first : id.position = start
      · refine ⟨value, List.mem_cons.mpr (.inl ?_)⟩
        rw [← first]
      · rcases @induction (start + 1) (by omega) (by omega) with ⟨other, member⟩
        exact ⟨other, List.mem_cons_of_mem _ member⟩

/-- Ids from a position on are moved on by a number of places. -/
def shift (start count : Nat) (id : TypeId) : TypeId :=
  if id.position < start then id else ⟨id.position + count⟩

theorem number_shift (start count : Nat) (values : List α) :
    number (start + count) values =
      (number start values).map fun entry => (entry.1, shift start count entry.2) := by
  have moved : ∀ first, start ≤ first → number (first + count) values =
      (number first values).map fun entry => (entry.1, shift start count entry.2) := by
    induction values with
    | nil => exact fun _ _ => rfl
    | cons value rest induction =>
        intro first later
        have here : shift start count ⟨first⟩ = ⟨first + count⟩ :=
          if_neg (Nat.not_lt.mpr later)
        rw [number, number, List.map_cons, here, ← induction (first + 1) (by omega),
          Nat.add_right_comm]
  exact moved start (Nat.le_refl start)

end TypeId
end DocumentTypes
