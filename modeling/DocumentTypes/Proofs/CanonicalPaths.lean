import DocumentTypes.Proofs.ItemTexts

/-! # Canonical paths

To make a path canonical means to go through it once, from left to right, and to put every index
in the place of the name that it stands behind. No name and no index goes beyond a separator, so
the same is done to each segment by itself, and the segments stay as many as they were. -/

namespace DocumentTypes.Path

variable {text front back rest name index stretch : List Char} {character : Char}

/-! ## Indexed names -/

/-- What brackets may hold: digits, at least one, or the asterisk. -/
inductive IsIndex : List Char → Prop
  | digits {index : List Char} (given : index ≠ [])
      (digits : ∀ character ∈ index, Unicode.isDecimalDigit character = true) : IsIndex index
  | every : IsIndex ['*']

inductive IsIndexed : List Char → List Char → Prop
  | behind {name index : List Char} (named : name ≠ [])
      (plain : ∀ character ∈ name, isDelimiter character = false) (isIndex : IsIndex index) :
      IsIndexed (name ++ '[' :: index ++ [']']) index

/-- A text and what it becomes when the first indexed name gives way to its index, and then all
further ones in what follows. -/
inductive Replaces : List Char → List Char → Prop
  | never {text : List Char}
      (none : ∀ front stretch back index, text = front ++ stretch ++ back →
        ¬IsIndexed stretch index) : Replaces text text
  | first {front stretch back index result : List Char} (indexed : IsIndexed stretch index)
      (leftmost : ∀ earlier other later inner,
        front ++ stretch ++ back = earlier ++ other ++ later → IsIndexed other inner →
          front.length ≤ earlier.length)
      (later : Replaces back result) : Replaces (front ++ stretch ++ back) (front ++ index ++ result)

theorem isDecimalDigit_of_isDelimiter (delimits : isDelimiter character = true) :
    Unicode.isDecimalDigit character = false := by
  simp only [isDelimiter, Bool.or_eq_true, beq_iff_eq] at delimits
  rcases delimits with (rfl | rfl) | rfl <;> decide

theorem IsIndex.isDelimiter_eq_false (isIndex : IsIndex index) (member : character ∈ index) :
    isDelimiter character = false := by
  cases isIndex with
  | every =>
      cases List.mem_singleton.mp member
      rfl
  | digits _ digits =>
      by_contra delimits
      rw [Bool.not_eq_false] at delimits
      exact absurd (digits character member) (by simp [isDecimalDigit_of_isDelimiter delimits])

theorem bracketIndex?_eq_some_iff :
    bracketIndex? text = some index ↔ IsIndex index ∧ ∃ rest, text = index ++ ']' :: rest := by
  constructor
  · intro found
    unfold bracketIndex? at found
    split at found
    next rest =>
      cases found
      exact ⟨.every, rest, rfl⟩
    next =>
      have opening : text.takeWhile Unicode.isDecimalDigit <+: text := List.takeWhile_prefix _
      have digits : ∀ character ∈ text.takeWhile Unicode.isDecimalDigit,
          Unicode.isDecimalDigit character = true := fun _ => List.mem_takeWhile_imp
      dsimp only at found
      split at found
      next closed =>
        cases found
        rw [Bool.and_eq_true, Bool.not_eq_true', List.isEmpty_eq_false_iff, beq_iff_eq] at closed
        refine ⟨.digits closed.1 digits, ?_⟩
        rcases List.head?_eq_some_iff.mp closed.2 with ⟨rest, bracket⟩
        exact ⟨rest, bracket ▸ (List.prefix_iff_eq_append.mp opening).symm⟩
      next => cases found
  · rintro ⟨isIndex, rest, rfl⟩
    cases isIndex with
    | every => rfl
    | digits given digits =>
        have bracket : Unicode.isDecimalDigit ']' = false := by decide
        have run : (index ++ ']' :: rest).takeWhile Unicode.isDecimalDigit = index := by
          rw [List.takeWhile_append_of_pos digits, List.takeWhile_cons_of_neg (by simp [bracket]),
            List.append_nil]
        unfold bracketIndex?
        split
        next starts =>
          rcases List.exists_cons_of_ne_nil given with ⟨first, others, rfl⟩
          cases (List.cons.inj starts).1
          exact absurd (digits '*' List.mem_cons_self) (by decide)
        next =>
          dsimp only
          rw [run, List.drop_left]
          simp [given]

/-! ## One step -/

theorem replaceIndexed_used (used : Nat) (name text : List Char) :
    replaceIndexed used name text = replaceIndexed 0 name (text.drop used) := by
  induction text generalizing used with
  | nil => cases used <;> rfl
  | cons character rest induction =>
      cases used with
      | zero => rfl
      | succ used => exact induction used

theorem replaceIndexed_name (plain : isDelimiter character = false) (name rest : List Char) :
    replaceIndexed 0 name (character :: rest) = replaceIndexed 0 (character :: name) rest := by
  rw [replaceIndexed, plain]
  rfl

theorem replaceIndexed_index (named : name ≠ []) (isIndex : IsIndex index) (rest : List Char) :
    replaceIndexed 0 name ('[' :: (index ++ ']' :: rest)) = index ++ replaceIndexed 0 [] rest := by
  have found : bracketIndex? (index ++ ']' :: rest) = some index :=
    bracketIndex?_eq_some_iff.mpr ⟨isIndex, rest, rfl⟩
  have given : name.isEmpty = false := List.isEmpty_eq_false_iff.mpr named
  rw [replaceIndexed]
  simp only [show isDelimiter '[' = true from rfl, given, found, replaceIndexed_used (_ + 1)]
  simp

theorem replaceIndexed_delimiter (delimits : isDelimiter character = true)
    (none : ∀ index back, IsIndex index → name ≠ [] → character = '[' →
      rest ≠ index ++ ']' :: back) :
    replaceIndexed 0 name (character :: rest) =
      name.reverse ++ character :: replaceIndexed 0 [] rest := by
  rw [replaceIndexed, delimits]
  simp only [Bool.not_true, Bool.false_eq_true, if_false]
  split
  next index found =>
    split at found
    next opens =>
      rw [Bool.and_eq_true, decide_eq_true_iff, Bool.not_eq_true', List.isEmpty_eq_false_iff]
        at opens
      rcases bracketIndex?_eq_some_iff.mp found with ⟨isIndex, back, parts⟩
      exact absurd parts (none index back isIndex opens.2 opens.1)
    next => cases found
  next => rfl

/-- A text is gone through step by step: a character belongs to a name, or it opens an index,
which is taken as a whole, or it only ends the name before it. -/
@[elab_as_elim]
theorem replaceIndexed_induction {motive : List Char → List Char → Prop}
    (done : ∀ name, motive name [])
    (named : ∀ name character rest, isDelimiter character = false →
      motive (character :: name) rest → motive name (character :: rest))
    (indexed : ∀ name index rest, name ≠ [] → IsIndex index → motive [] rest →
      motive name ('[' :: (index ++ ']' :: rest)))
    (delimited : ∀ name character rest, isDelimiter character = true →
      (∀ index back, IsIndex index → name ≠ [] → character = '[' → rest ≠ index ++ ']' :: back) →
        motive [] rest → motive name (character :: rest))
    (name text : List Char) : motive name text := by
  induction length : text.length using Nat.strongRecOn generalizing name text with
  | _ count induction =>
      subst length
      cases text with
      | nil => exact done name
      | cons character rest =>
          have after := induction rest.length (Nat.lt_succ_self _)
          by_cases opens : ∃ index back, IsIndex index ∧ name ≠ [] ∧ character = '[' ∧
              rest = index ++ ']' :: back
          · rcases opens with ⟨index, back, isIndex, given, rfl, rfl⟩
            refine indexed name index back given isIndex (induction back.length ?_ [] back rfl)
            simp
            omega
          · cases delimits : isDelimiter character with
            | false => exact named name character rest delimits (after _ rest rfl)
            | true =>
                refine delimited name character rest delimits ?_ (after [] rest rfl)
                exact fun index back isIndex given bracket parts =>
                  opens ⟨index, back, isIndex, given, bracket, parts⟩

/-! ## Segments -/

theorem of_append_eq_append {separator : Char} {inside after : List Char}
    (absent : separator ∉ inside) (same : front ++ separator :: back = inside ++ after) :
    ∃ rest, front = inside ++ rest := by
  rcases List.append_eq_append_iff.mp same with ⟨more, longer, parts⟩ | ⟨rest, parts, -⟩
  · cases more with
    | nil => exact ⟨[], by simp [longer]⟩
    | cons first others =>
        cases (List.cons.inj parts).1
        exact absurd (longer ▸ List.mem_append_right _ List.mem_cons_self) absent
  · exact ⟨rest, parts⟩

theorem replaceIndexed_append (name front back : List Char) :
    replaceIndexed 0 name (front ++ '/' :: back) =
      replaceIndexed 0 name front ++ '/' :: replaceIndexed 0 [] back := by
  induction name, front using replaceIndexed_induction with
  | done name =>
      exact replaceIndexed_delimiter rfl fun _ _ _ _ bracket => absurd bracket (by decide)
  | named name character rest plain induction =>
      rw [List.cons_append, replaceIndexed_name plain, replaceIndexed_name plain, induction]
  | indexed name index rest given isIndex induction =>
      rw [List.cons_append, List.append_assoc, List.cons_append,
        replaceIndexed_index given isIndex, induction, replaceIndexed_index given isIndex,
        List.append_assoc]
  | delimited name character rest delimits none induction =>
      have still : ∀ index after, IsIndex index → name ≠ [] → character = '[' →
          rest ++ '/' :: back ≠ index ++ ']' :: after := by
        intro index after isIndex given bracket parts
        have absent : '/' ∉ index ++ [']'] := by
          intro member
          rcases List.mem_append.mp member with inIndex | closing
          · exact absurd (isIndex.isDelimiter_eq_false inIndex) (by decide)
          · exact absurd (List.mem_singleton.mp closing) (by decide)
        rw [List.append_cons index] at parts
        rcases of_append_eq_append absent parts with ⟨others, equal⟩
        exact none index others isIndex given bracket (equal.trans (List.append_cons ..).symm)
      rw [List.cons_append, replaceIndexed_delimiter delimits still, induction,
        replaceIndexed_delimiter delimits none, List.append_assoc, List.cons_append]

theorem mem_of_mem_replaceIndexed (member : character ∈ replaceIndexed 0 name text) :
    character ∈ name ∨ character ∈ text := by
  induction name, text using replaceIndexed_induction with
  | done name => exact .inl (List.mem_reverse.mp member)
  | named name first rest plain induction =>
      rw [replaceIndexed_name plain] at member
      have found := induction member
      simp only [List.mem_cons] at found ⊢
      tauto
  | indexed name index rest given isIndex induction =>
      rw [replaceIndexed_index given isIndex, List.mem_append] at member
      have found := member.imp_right induction
      simp only [List.mem_cons, List.mem_append, List.not_mem_nil] at found ⊢
      tauto
  | delimited name first rest delimits none induction =>
      rw [replaceIndexed_delimiter delimits none, List.mem_append, List.mem_reverse,
        List.mem_cons] at member
      have found := member.imp_right (Or.imp_right induction)
      simp only [List.mem_cons, List.not_mem_nil] at found ⊢
      tauto

theorem splitChars_replaceIndexed (text : List Char) :
    splitChars '/' (replaceIndexed 0 [] text) = (splitChars '/' text).map (replaceIndexed 0 []) := by
  induction length : text.length using Nat.strongRecOn generalizing text with
  | _ count induction =>
      have unseparated {part : List Char} (absent : '/' ∉ part) :
          '/' ∉ replaceIndexed 0 [] part := by
        intro member
        exact absent ((mem_of_mem_replaceIndexed member).resolve_left List.not_mem_nil)
      by_cases separated : '/' ∈ text
      · rcases List.eq_append_cons_of_mem separated with ⟨front, back, rfl, absent⟩
        have shorter : back.length < count := by
          rw [← length, List.length_append, List.length_cons]
          omega
        rw [replaceIndexed_append, splitChars_append (unseparated absent),
          splitChars_append absent, List.map_cons, induction _ shorter back rfl]
      · rw [splitChars_of_notMem separated, splitChars_of_notMem (unseparated separated),
          List.map_singleton]

/-! ## Left to right -/

theorem eq_nil_of_append_delimiter {tail after : List Char} {delimiter : Char}
    (plain : ∀ character ∈ front ++ tail, isDelimiter character = false)
    (delimits : isDelimiter character = true)
    (parts : character :: rest = tail ++ delimiter :: after) : tail = [] := by
  cases tail with
  | nil => rfl
  | cons first others =>
      cases (List.cons.inj parts).1
      have inside := plain character (List.mem_append_right _ List.mem_cons_self)
      exact absurd (delimits.symm.trans inside) (by decide)

theorem append_delimiter_inj {other after : List Char} {delimiter : Char}
    (plain : ∀ character ∈ name, isDelimiter character = false)
    (otherPlain : ∀ character ∈ other, isDelimiter character = false)
    (delimits : isDelimiter character = true) (otherDelimits : isDelimiter delimiter = true)
    (same : name ++ character :: rest = other ++ delimiter :: after) :
    name = other ∧ character :: rest = delimiter :: after := by
  rcases List.append_eq_append_iff.mp same with ⟨tail, longer, parts⟩ | ⟨tail, longer, parts⟩
  · cases eq_nil_of_append_delimiter (longer ▸ otherPlain) delimits parts
    exact ⟨by simp [longer], parts⟩
  · cases eq_nil_of_append_delimiter (longer ▸ plain) otherDelimits parts
    exact ⟨by simp [longer], parts.symm⟩

theorem IsIndexed.after_delimiter {earlier later : List Char} (indexed : IsIndexed stretch index)
    (plain : ∀ character ∈ name, isDelimiter character = false)
    (delimits : isDelimiter character = true)
    (none : ∀ index back, IsIndex index → name ≠ [] → character = '[' → rest ≠ index ++ ']' :: back)
    (parts : name ++ character :: rest = earlier ++ stretch ++ later) :
    ∃ between, earlier = name ++ character :: between ∧ rest = between ++ stretch ++ later := by
  rcases indexed with @⟨inner, index, named, innerPlain, isIndex⟩
  rw [List.append_assoc] at parts
  rcases List.append_eq_append_iff.mp parts with ⟨between, longer, back⟩ | ⟨tail, longer, back⟩
  · cases between with
    | nil =>
        rcases List.exists_cons_of_ne_nil named with ⟨first, others, rfl⟩
        cases (List.cons.inj back).1
        have inside := innerPlain character List.mem_cons_self
        exact absurd (delimits.symm.trans inside) (by decide)
    | cons first between =>
        cases (List.cons.inj back).1
        exact ⟨between, longer, by simpa using back⟩
  · -- Here it begins inside the name, which then would have the index.
    have tailPlain : ∀ character ∈ tail, isDelimiter character = false :=
      fun other member => plain other (longer ▸ List.mem_append_right _ member)
    have opened : inner ++ '[' :: (index ++ ']' :: later) = tail ++ character :: rest := by
      simpa using back
    rcases append_delimiter_inj innerPlain tailPlain rfl delimits opened with ⟨rfl, bracket⟩
    rcases List.cons.inj bracket with ⟨rfl, after⟩
    have given : name ≠ [] := longer ▸ List.append_ne_nil_of_right_ne_nil _ named
    exact absurd after.symm (none index later isIndex given rfl)

theorem Replaces.after_delimiter {result : List Char} (replaces : Replaces rest result)
    (plain : ∀ character ∈ name, isDelimiter character = false)
    (delimits : isDelimiter character = true)
    (none : ∀ index back, IsIndex index → name ≠ [] → character = '[' →
      rest ≠ index ++ ']' :: back) :
    Replaces (name ++ character :: rest) (name ++ character :: result) := by
  cases replaces with
  | never absent =>
      refine .never fun front stretch back index parts indexed => ?_
      rcases indexed.after_delimiter plain delimits none parts with ⟨between, -, inside⟩
      exact absent between stretch back index inside indexed
  | @first front stretch back index result indexed leftmost later =>
      have stillLeftmost : ∀ earlier other after inner,
          name ++ character :: front ++ stretch ++ back = earlier ++ other ++ after →
            IsIndexed other inner → (name ++ character :: front).length ≤ earlier.length := by
        intro earlier other after inner parts otherIndexed
        have shifted : name ++ character :: (front ++ stretch ++ back) =
            earlier ++ other ++ after := by simpa using parts
        rcases otherIndexed.after_delimiter plain delimits none shifted with
          ⟨between, rfl, inside⟩
        have first := leftmost between other after inner inside otherIndexed
        simp only [List.length_append, List.length_cons]
        omega
      have whole := Replaces.first indexed stillLeftmost later
      simpa using whole

/-- To go through a text is to replace in it. -/
theorem replaces_replaceIndexed (plain : ∀ character ∈ name, isDelimiter character = false) :
    Replaces (name.reverse ++ text) (replaceIndexed 0 name text) := by
  induction name, text using replaceIndexed_induction with
  | done name =>
      rw [List.append_nil]
      refine .never fun front stretch back index parts indexed => ?_
      rcases indexed with ⟨named, _, isIndex⟩
      have member : '[' ∈ name := List.mem_reverse.mp (parts ▸ by simp)
      exact absurd (plain '[' member) (by decide)
  | named name character rest first induction =>
      rw [replaceIndexed_name first]
      have whole := induction (List.forall_mem_cons.mpr ⟨first, plain⟩)
      rwa [List.reverse_cons, List.append_assoc] at whole
  | indexed name index rest given isIndex induction =>
      have indexed : IsIndexed (name.reverse ++ '[' :: index ++ [']']) index :=
        .behind (by simpa using given) (fun _ member => plain _ (List.mem_reverse.mp member)) isIndex
      have whole := @Replaces.first [] _ rest index _ indexed (fun _ _ _ _ _ _ => Nat.zero_le _)
        (induction fun _ none => nomatch none)
      rw [replaceIndexed_index given isIndex]
      simpa using whole
  | delimited name character rest delimits none induction =>
      rw [replaceIndexed_delimiter delimits none]
      refine (induction fun _ none => nomatch none).after_delimiter
        (fun _ member => plain _ (List.mem_reverse.mp member)) delimits ?_
      exact fun index back isIndex given => none index back isIndex (by simpa using given)

theorem IsIndexed.unique {other inner after : List Char} (indexed : IsIndexed stretch index)
    (again : IsIndexed other inner) (same : stretch ++ back = other ++ after) :
    index = inner ∧ back = after := by
  rcases indexed with @⟨name, index, -, plain, isIndex⟩
  rcases again with @⟨otherName, inner, -, otherPlain, otherIsIndex⟩
  have opened : name ++ '[' :: (index ++ ']' :: back) =
      otherName ++ '[' :: (inner ++ ']' :: after) := by simpa using same
  have inside := (append_delimiter_inj plain otherPlain rfl rfl opened).2
  have closed := append_delimiter_inj (fun _ => isIndex.isDelimiter_eq_false)
    (fun _ => otherIsIndex.isDelimiter_eq_false) rfl rfl (List.cons.inj inside).2
  exact ⟨closed.1, (List.cons.inj closed.2).2⟩

theorem Replaces.unique {result other : List Char} (replaces : Replaces text result)
    (again : Replaces text other) : result = other := by
  induction replaces generalizing other with
  | never absent =>
      cases again with
      | never => rfl
      | first indexed => exact absurd indexed (absent _ _ _ _ rfl)
  | @first front stretch back index result indexed leftmost _ induction =>
      generalize same : front ++ stretch ++ back = whole at again
      cases again with
      | never absent => exact absurd indexed (absent _ _ _ _ same.symm)
      | @first otherFront otherStretch otherBack otherIndex result otherIndexed otherLeftmost later =>
          have lengths : front.length = otherFront.length :=
            Nat.le_antisymm (leftmost _ _ _ _ same otherIndexed)
              (otherLeftmost _ _ _ _ same.symm indexed)
          rw [List.append_assoc, List.append_assoc] at same
          rcases List.append_inj same lengths with ⟨rfl, parts⟩
          rcases indexed.unique otherIndexed parts with ⟨rfl, rfl⟩
          rw [induction later]

/-! ## Paths -/

def relative (path : String) : String :=
  match path.toList with
  | '/' :: rest => String.ofList rest
  | _ => path

/-- A text in which indexes have taken the places of the names. -/
def replaced (text : String) : String := String.ofList (replaceIndexed 0 [] text.toList)

theorem canonical_eq (path : String) : canonical path = replaced (relative path) := by
  have stripped : (relative path).toList = match path.toList with
      | '/' :: rest => rest
      | characters => characters := by
    unfold relative
    split
    · exact String.toList_ofList
    · rfl
  exact congrArg (fun characters => String.ofList (replaceIndexed 0 [] characters)) stripped.symm

theorem replaces_iff {text result : String} :
    Replaces text.toList result.toList ↔ result = replaced text := by
  have replaces : Replaces text.toList (replaced text).toList := by
    rw [replaced, String.toList_ofList]
    exact @replaces_replaceIndexed _ [] fun _ none => nomatch none
  constructor
  · exact fun again => String.toList_inj.mp (again.unique replaces)
  · exact fun same => same ▸ replaces

theorem segments_replaced (text : String) :
    segments (replaced text) = (segments text).map replaced := by
  unfold segments splitOn replaced
  rw [String.toList_ofList, splitChars_replaceIndexed, List.map_map, List.map_map]
  refine List.map_congr_left fun part _ => ?_
  simp

theorem notMem_of_mem_splitChars {separator : Char} {part : List Char}
    (member : part ∈ splitChars separator text) : separator ∉ part := by
  induction text generalizing part with
  | nil =>
      cases List.mem_singleton.mp member
      exact List.not_mem_nil
  | cons character rest induction =>
      rw [splitChars] at member
      split at member
      next =>
        rcases List.mem_cons.mp member with rfl | later
        · exact List.not_mem_nil
        · exact induction later
      next different =>
        cases parts : splitChars separator rest with
        | nil =>
            rw [parts] at member
            cases List.mem_singleton.mp member
            simpa using Ne.symm different
        | cons first others =>
            rw [parts] at member induction
            rcases List.mem_cons.mp member with rfl | later
            · simpa [Ne.symm different] using induction List.mem_cons_self
            · exact induction (List.mem_cons_of_mem _ later)

theorem notMem_of_mem_segments {path segment : String} (member : segment ∈ segments path) :
    '/' ∉ segment.toList := by
  rcases List.mem_map.mp member with ⟨part, inside, rfl⟩
  rw [String.toList_ofList]
  exact notMem_of_mem_splitChars inside

/-- The forms of a segment, and what becomes of it: a plain name stays what it is, and an index
takes the place of the name before it. -/
inductive Becomes : String → String → Prop
  | plain {segment : String} (unopened : '[' ∉ segment.toList) (unclosed : ']' ∉ segment.toList) :
      Becomes segment segment
  | indexed {name index : String} (named : name ≠ "") (unopened : '[' ∉ name.toList)
      (unclosed : ']' ∉ name.toList) (isIndex : IsIndex index.toList) :
      Becomes (name ++ "[" ++ index ++ "]") index

theorem replaced_of_plain {text : String} (unopened : '[' ∉ text.toList) : replaced text = text := by
  rw [replaced, replaceIndexed_of_plain unopened, List.reverse_nil, List.nil_append,
    String.ofList_toList]

theorem replaceIndexed_names (plain : ∀ character ∈ front, isDelimiter character = false)
    (name rest : List Char) :
    replaceIndexed 0 name (front ++ rest) = replaceIndexed 0 (front.reverse ++ name) rest := by
  induction front generalizing name with
  | nil => rfl
  | cons character others induction =>
      have later := fun other member => plain other (List.mem_cons_of_mem _ member)
      rw [List.cons_append, replaceIndexed_name (plain character List.mem_cons_self),
        induction later, List.reverse_cons, List.append_assoc, List.singleton_append]

theorem replaced_of_indexed {name index : String} (named : name ≠ "")
    (plain : ∀ character ∈ name.toList, isDelimiter character = false)
    (isIndex : IsIndex index.toList) : replaced (name ++ "[" ++ index ++ "]") = index := by
  have characters : (name ++ "[" ++ index ++ "]").toList =
      name.toList ++ '[' :: (index.toList ++ ']' :: []) := by simp
  have given : name.toList.reverse ++ [] ≠ [] := by simpa using named
  rw [replaced, characters, replaceIndexed_names plain, replaceIndexed_index given isIndex,
    replaceIndexed, List.reverse_nil, List.append_nil, String.ofList_toList]

namespace Becomes

variable {segment result : String}

theorem replaced_eq (becomes : Becomes segment result) (unseparated : '/' ∉ segment.toList) :
    replaced segment = result := by
  cases becomes with
  | plain unopened => exact replaced_of_plain unopened
  | @indexed name _ named unopened unclosed isIndex =>
      refine replaced_of_indexed named (fun character member => ?_) isIndex
      have inside : '/' ∉ name.toList := fun separator => unseparated (by simp [separator])
      by_contra delimits
      simp only [isDelimiter, Bool.not_eq_false, Bool.or_eq_true, beq_iff_eq] at delimits
      rcases delimits with (rfl | rfl) | rfl <;> contradiction

theorem unbracketed (becomes : Becomes segment result) :
    '[' ∉ result.toList ∧ ']' ∉ result.toList := by
  cases becomes with
  | plain unopened unclosed => exact ⟨unopened, unclosed⟩
  | indexed _ _ _ isIndex =>
      have absent {bracket : Char} (delimits : isDelimiter bracket = true) :
          bracket ∉ result.toList := fun member =>
        absurd (delimits.symm.trans (isIndex.isDelimiter_eq_false member)) (by decide)
      exact ⟨absent rfl, absent rfl⟩

end Becomes

theorem map_replaced {parts results : List String} (forms : List.Forall₂ Becomes parts results)
    (unseparated : ∀ part ∈ parts, '/' ∉ part.toList) :
    parts.map replaced = results ∧
      ∀ result ∈ results, '[' ∉ result.toList ∧ ']' ∉ result.toList := by
  induction forms with
  | nil => exact ⟨rfl, fun _ none => nomatch none⟩
  | cons becomes _ induction =>
      rcases List.forall_mem_cons.mp unseparated with ⟨here, later⟩
      rcases induction later with ⟨equal, unbracketed⟩
      refine ⟨?_, List.forall_mem_cons.mpr ⟨becomes.unbracketed, unbracketed⟩⟩
      rw [List.map_cons, becomes.replaced_eq here, equal]

/-- A canonical path has the segments of the path, each of them replaced by itself. For the path
as for a segment, that is the only text that it becomes when indexes take the places of names from
left to right. If every segment is a plain name or an indexed one, then plain names stay what they
are and an index takes the place of its name, no bracket is left, and what is canonical already
stays what it is, unless it begins with a slash. -/
theorem canonical_by_segments (path : String) :
    let parts := segments (relative path)
    canonical path = "/".intercalate (parts.map replaced) ∧
    segments (canonical path) = parts.map replaced ∧
    (∀ result : String, Replaces (relative path).toList result.toList ↔ result = canonical path) ∧
    (∀ part ∈ parts, ∀ result : String,
      Replaces part.toList result.toList ↔ result = replaced part) ∧
    ∀ results, List.Forall₂ Becomes parts results →
      segments (canonical path) = results ∧
      ('[' ∉ (canonical path).toList ∧ ']' ∉ (canonical path).toList) ∧
      ((canonical path).toList.head? ≠ some '/' → canonical (canonical path) = canonical path) := by
  intro parts
  have divided : segments (canonical path) = parts.map replaced := by
    rw [canonical_eq, segments_replaced]
  have joined : canonical path = "/".intercalate (segments (canonical path)) :=
    (intercalate_splitOn '/' (canonical path)).symm
  refine ⟨divided ▸ joined, divided, fun result => canonical_eq path ▸ replaces_iff,
    fun _ _ _ => replaces_iff, fun results forms => ?_⟩
  rcases map_replaced forms fun _ => notMem_of_mem_segments with ⟨equal, unbracketed⟩
  have becomes : segments (canonical path) = results := divided.trans equal
  have absent {bracket : Char} (other : bracket ≠ '/')
      (none : ∀ result ∈ results, bracket ∉ result.toList) :
      bracket ∉ (canonical path).toList := by
    rw [joined, becomes]
    exact notMem_intercalate other none
  have unopened := absent (by decide) fun result member => (unbracketed result member).1
  have unclosed := absent (by decide) fun result member => (unbracketed result member).2
  exact ⟨becomes, ⟨unopened, unclosed⟩, canonical_of_plain unopened⟩

/-- One slash is removed, and the index stands for the file. -/
theorem canonical_by_segments_of_files :
    let path := "/files/file[12]/name"
    List.Forall₂ Becomes ["files", "file[12]", "name"] ["files", "12", "name"] ∧
    segments (canonical path) = ["files", "12", "name"] ∧
    canonical (canonical path) = canonical path := by
  intro path
  have digits : ∀ character ∈ "12".toList, Unicode.isDecimalDigit character = true :=
    List.all_eq_true.mp (by decide +kernel)
  have indexed : Becomes ("file" ++ "[" ++ "12" ++ "]") "12" :=
    .indexed (by decide) (by decide) (by decide) (.digits (by decide) digits)
  have forms : List.Forall₂ Becomes ["files", "file[12]", "name"] ["files", "12", "name"] :=
    .cons (.plain (by decide) (by decide)) (.cons indexed
      (.cons (.plain (by decide) (by decide)) .nil))
  have parts : segments (relative path) = ["files", "file[12]", "name"] := by decide +kernel
  rcases canonical_by_segments path with ⟨-, -, -, -, regular⟩
  rcases regular _ (parts ▸ forms) with ⟨divided, -, settled⟩
  exact ⟨forms, divided, settled (by decide +kernel)⟩

end DocumentTypes.Path
