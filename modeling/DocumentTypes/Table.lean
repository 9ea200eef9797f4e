/-! # Tables

A table maps keys to values and remembers the order in which its keys first
appeared. Putting a value under a present key replaces the value and keeps the
key's place; a new key goes to the end. -/

namespace DocumentTypes

/-! ## Entries -/

namespace Entries

variable {κ : Type u} {α : Type v} [DecidableEq κ]

def get? : List (κ × α) → κ → Option α
  | [], _ => none
  | (present, value) :: rest, key => if present = key then some value else get? rest key

def put : List (κ × α) → κ → α → List (κ × α)
  | [], key, value => [(key, value)]
  | (present, old) :: rest, key, value =>
    if present = key then (key, value) :: rest else (present, old) :: put rest key value

def erase (entries : List (κ × α)) (key : κ) : List (κ × α) :=
  entries.filter fun entry => entry.1 ≠ key

theorem get?_put (entries : List (κ × α)) (key other : κ) (value : α) :
    get? (put entries key value) other =
      if key = other then some value else get? entries other := by
  induction entries with
  | nil => simp [put, get?]
  | cons entry rest induction =>
    obtain ⟨present, old⟩ := entry
    by_cases same : present = key
    · subst same
      by_cases equal : present = other <;> simp [put, get?, equal]
    · by_cases equal : present = other
      · subst equal
        simp [put, get?, same, Ne.symm same]
      · simp [put, get?, same, equal, induction]

theorem get?_erase (entries : List (κ × α)) (key other : κ) :
    get? (erase entries key) other = if key = other then none else get? entries other := by
  induction entries with
  | nil => simp [erase, get?]
  | cons entry rest induction =>
    obtain ⟨present, old⟩ := entry
    by_cases same : present = key
    · subst same
      by_cases equal : present = other
      · simpa [erase, get?, equal] using induction
      · simpa [erase, get?, equal] using induction
    · by_cases equal : present = other
      · subst equal
        simp [erase, get?, same, Ne.symm same]
      · simpa [erase, get?, same, equal] using induction

theorem keys_put (entries : List (κ × α)) (key : κ) (value : α) :
    (put entries key value).map Prod.fst =
      if key ∈ entries.map Prod.fst then entries.map Prod.fst
      else entries.map Prod.fst ++ [key] := by
  induction entries with
  | nil => simp [put]
  | cons entry rest induction =>
    obtain ⟨present, old⟩ := entry
    by_cases same : present = key
    · simp [put, same]
    · rw [put, if_neg same, List.map_cons, induction]
      by_cases member : key ∈ rest.map Prod.fst
      · rw [if_pos member, if_pos (by simpa using Or.inr member)]; rfl
      · rw [if_neg member, if_neg (by simpa [Ne.symm same] using member)]; rfl

theorem mem_of_get? {entries : List (κ × α)} {key : κ} {value : α}
    (found : get? entries key = some value) : (key, value) ∈ entries := by
  induction entries with
  | nil => simp [get?] at found
  | cons entry rest induction =>
      obtain ⟨present, old⟩ := entry
      rw [get?] at found
      split at found
      next same =>
        cases found
        exact same ▸ List.mem_cons_self
      next different => exact List.mem_cons_of_mem _ (induction found)

theorem get?_of_mem {entries : List (κ × α)} {key : κ} {value : α}
    (nodup : (entries.map Prod.fst).Nodup) (member : (key, value) ∈ entries) :
    get? entries key = some value := by
  induction entries with
  | nil => cases member
  | cons entry rest induction =>
      have parts := List.nodup_cons.mp nodup
      rcases List.mem_cons.mp member with equal | member
      · subst equal
        simp [get?]
      · have different : entry.1 ≠ key := fun equal =>
          parts.1 (equal ▸ List.mem_map_of_mem member)
        rw [get?, if_neg different]
        exact induction parts.2 member

theorem mem_put {entries : List (κ × α)} {key : κ} {value : α} {entry : κ × α}
    (member : entry ∈ put entries key value) : entry = (key, value) ∨ entry ∈ entries := by
  induction entries with
  | nil => simpa [put] using member
  | cons head rest induction =>
      rw [put] at member
      split at member
      · rcases List.mem_cons.mp member with equal | member
        · exact .inl equal
        · exact .inr (List.mem_cons_of_mem _ member)
      · rcases List.mem_cons.mp member with equal | member
        · exact .inr (equal ▸ List.mem_cons_self)
        · exact (induction member).imp_right (List.mem_cons_of_mem _)

theorem erase_put {entries : List (κ × α)} {key : κ} (absent : get? entries key = none)
    (value : α) : erase (put entries key value) key = entries := by
  induction entries with
  | nil => simp [put, erase]
  | cons entry rest induction =>
      obtain ⟨present, old⟩ := entry
      rw [get?] at absent
      split at absent
      next => cases absent
      next different =>
        simpa [put, erase, different] using induction absent

end Entries

/-! ## Tables -/

/-- Entries in order of first appearance, each key once. -/
structure Table (κ : Type u) (α : Type v) where
  entries : List (κ × α)
  nodup : (entries.map Prod.fst).Nodup

namespace Table

variable {κ : Type u} {α : Type v} [DecidableEq κ]

def empty : Table κ α := ⟨[], List.nodup_nil⟩

instance : Inhabited (Table κ α) := ⟨empty⟩

def get? (table : Table κ α) (key : κ) : Option α := Entries.get? table.entries key

def contains (table : Table κ α) (key : κ) : Bool := (table.get? key).isSome

def keys (table : Table κ α) : List κ := table.entries.map Prod.fst

def values (table : Table κ α) : List α := table.entries.map Prod.snd

def size (table : Table κ α) : Nat := table.entries.length

def isEmpty (table : Table κ α) : Bool := table.entries.isEmpty

def put (table : Table κ α) (key : κ) (value : α) : Table κ α where
  entries := Entries.put table.entries key value
  nodup := by
    rw [Entries.keys_put]
    split
    · exact table.nodup
    · next absent =>
      refine List.nodup_append.mpr ⟨table.nodup, by simp, ?_⟩
      intro left leftMember right rightMember equal
      rw [List.mem_singleton] at rightMember
      exact absent (rightMember ▸ equal ▸ leftMember)

def erase (table : Table κ α) (key : κ) : Table κ α where
  entries := Entries.erase table.entries key
  nodup := (List.filter_sublist.map Prod.fst).nodup table.nodup

/-- Put every entry in turn; a later entry replaces an earlier one of its key. -/
def ofList (entries : List (κ × α)) : Table κ α :=
  entries.foldl (fun table entry => table.put entry.1 entry.2) empty

@[simp] theorem get?_empty (key : κ) : (empty : Table κ α).get? key = none := rfl

theorem get?_put (table : Table κ α) (key other : κ) (value : α) :
    (table.put key value).get? other = if key = other then some value else table.get? other :=
  Entries.get?_put table.entries key other value

theorem get?_erase (table : Table κ α) (key other : κ) :
    (table.erase key).get? other = if key = other then none else table.get? other :=
  Entries.get?_erase table.entries key other

theorem contains_iff {table : Table κ α} {key : κ} :
    table.contains key = true ↔ ∃ value, table.get? key = some value :=
  Option.isSome_iff_exists

theorem contains_put (table : Table κ α) (key other : κ) (value : α) :
    (table.put key value).contains other = (decide (key = other) || table.contains other) := by
  by_cases equal : key = other <;> simp [contains, get?_put, equal]

@[simp] theorem contains_put_self (table : Table κ α) (key : κ) (value : α) :
    (table.put key value).contains key = true := by
  simp [contains_put]

theorem mem_entries_iff {table : Table κ α} {key : κ} {value : α} :
    (key, value) ∈ table.entries ↔ table.get? key = some value :=
  ⟨Entries.get?_of_mem table.nodup, Entries.mem_of_get?⟩

theorem mem_values_iff {table : Table κ α} {value : α} :
    value ∈ table.values ↔ ∃ key, table.get? key = some value := by
  simp [values, ← mem_entries_iff]

theorem mem_keys_iff {table : Table κ α} {key : κ} :
    key ∈ table.keys ↔ ∃ value, table.get? key = some value := by
  simp [keys, ← mem_entries_iff]

theorem of_get?_put {table : Table κ α} {key other : κ} {value answer : α}
    (found : (table.put key value).get? other = some answer) :
    key = other ∧ value = answer ∨ table.get? other = some answer := by
  rw [get?_put] at found
  by_cases same : key = other
  · rw [if_pos same] at found
    exact .inl ⟨same, Option.some.inj found⟩
  · rw [if_neg same] at found
    exact .inr found

theorem mem_values_put {table : Table κ α} {key : κ} {value other : α}
    (member : other ∈ (table.put key value).values) : other = value ∨ other ∈ table.values := by
  rcases List.mem_map.mp member with ⟨entry, entryMember, rfl⟩
  rcases Entries.mem_put entryMember with equal | old
  · exact .inl (equal ▸ rfl)
  · exact .inr (List.mem_map_of_mem old)

theorem erase_put {table : Table κ α} {key : κ} (absent : table.get? key = none) (value : α) :
    (table.put key value).erase key = table := by
  have same := Entries.erase_put absent value
  cases table
  simp only [put, erase, same]

theorem mem_values_put_of_absent {table : Table κ α} {key : κ} (absent : table.get? key = none)
    (value : α) {other : α} (member : other ∈ table.values) :
    other ∈ (table.put key value).values := by
  rcases mem_values_iff.mp member with ⟨place, found⟩
  refine mem_values_iff.mpr ⟨place, ?_⟩
  rw [get?_put, if_neg]
  · exact found
  · rintro rfl
    rw [absent] at found
    cases found

theorem mem_values_of_erase {table : Table κ α} {key : κ} {value : α}
    (member : value ∈ (table.erase key).values) : value ∈ table.values :=
  (List.filter_sublist.map Prod.snd).subset member

example : (ofList [("a", 1), ("b", 2), ("a", 3)]).entries = [("a", 3), ("b", 2)] := by decide

end Table
end DocumentTypes
