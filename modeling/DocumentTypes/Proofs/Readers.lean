import DocumentTypes.Pattern.Parser
import Mathlib.Data.List.Infix
import Mathlib.Data.List.TakeWhile

/-! # Readers

A reader takes something from the front of a text. What it makes of a text does not depend on a
closing parenthesis behind the text, unless it comes to the end: then it has taken the parenthesis
for something else, a character of a class or the content of a comment, and is past it. -/

namespace DocumentTypes.Pattern

variable {α β : Type}

/-- What is read from the front of a text, if anything is, with the text behind it. -/
abbrev Reader (α : Type) := List Char → Option (α × List Char)

/-- How an answer about a text goes on when a closing parenthesis and more stand behind the text.
Either the answer is the same and the parenthesis is left, or the parenthesis has been read over.
A text that has an answer of its own is read over only in a comment, which ends where the line
ends. -/
inductive Continues (short : Option (α × List Char)) (long : List Char → Option (α × List Char)) :
    Prop
  | same (answer : α) (rest : List Char) (found : short = some (answer, rest))
      (goesOn : ∀ more, long more = some (answer, rest ++ ')' :: more))
  | beyond (past : ∀ more answer rest, long more = some (answer, rest) → rest <:+ more)
      (comment : short = none ∨ ∃ answer, short = some (answer, []) ∧
        ∀ more, '\n' ∉ more → long more = short)

def Shrinks (reader : Reader α) : Prop :=
  ∀ text answer rest, reader text = some (answer, rest) → rest <:+ text

def ContinuesAt (reader : Reader α) (text : List Char) : Prop :=
  Continues (reader text) fun more => reader (text ++ ')' :: more)

/-- A reader whose answers hold whatever stands behind a closing parenthesis. -/
structure Local (reader : Reader α) : Prop where
  shrinks : Shrinks reader
  continues : ∀ text, ContinuesAt reader text

/-! ## Combined readers -/

namespace Reader

def andThen (first : Reader α) (next : α → Reader β) : Reader β := fun text =>
  (first text).bind fun piece => next piece.1 piece.2

def give (answer : α) : Reader α := fun text => some (answer, text)

def fail : Reader α := fun _ => none

/-- A reader for what stands behind the first character. -/
def onHead (next : Char → Reader α) : Reader α
  | [] => none
  | character :: rest => next character rest

def ifSo (test : List Char → Bool) (first second : Reader α) : Reader α := fun text =>
  if test text then first text else second text

/-- One of two readers, the first of them for what stands behind given characters. -/
def ifPrefix (front : List Char) (first second : Reader α) : Reader α := fun text =>
  if front.isPrefixOf text then first (text.drop front.length) else second text

@[simp]
theorem ifPrefix_self (character : Char) (rest : List Char) (first second : Reader α) :
    ifPrefix [character] first second (character :: rest) = first rest := by
  simp [ifPrefix]

theorem ifPrefix_other {character other : Char} (different : other ≠ character) (rest : List Char)
    (first second : Reader α) :
    ifPrefix [character] first second (other :: rest) = second (other :: rest) := by
  simp [ifPrefix, Ne.symm different]

end Reader

theorem isPrefixOf_eq_false {front text : List Char} (other : ∀ rest, text = front ++ rest → False) :
    front.isPrefixOf text = false := by
  refine Bool.eq_false_iff.mpr fun taken => ?_
  rcases List.isPrefixOf_iff_prefix.mp taken with ⟨rest, rfl⟩
  exact other rest rfl

/-- A test that does not see what stands behind a closing parenthesis. -/
def Blind (test : List Char → Bool) : Prop := ∀ text more, test (text ++ ')' :: more) = test text

theorem blind_head {test : Char → Bool} (stops : test ')' = false) :
    Blind fun text => text.head?.any test := by
  rintro (_ | ⟨character, rest⟩) more
  · simpa using stops
  · rfl

theorem blind_front {front : List Char} (free : ')' ∉ front) : Blind front.isPrefixOf := by
  intro text more
  induction front generalizing text with
  | nil => rfl
  | cons character front induction =>
      rw [List.mem_cons, not_or] at free
      cases text with
      | nil => simp [List.isPrefixOf, Ne.symm free.1]
      | cons other text => simp [List.isPrefixOf, induction free.2 text]

theorem Continues.nothing {long : List Char → Option (α × List Char)}
    (unread : ∀ more, long more = none) : Continues none long :=
  .beyond (fun more _ _ found => nomatch (unread more).symm.trans found) (.inl rfl)

theorem Continues.andThen {short : Option (α × List Char)}
    {long : List Char → Option (α × List Char)} (first : Continues short long)
    {next : α → Reader β} (shrinks : ∀ answer, Shrinks (next answer))
    (continues : ∀ answer rest, short = some (answer, rest) → ContinuesAt (next answer) rest) :
    Continues (short.bind fun piece => next piece.1 piece.2)
      fun more => (long more).bind fun piece => next piece.1 piece.2 := by
  cases first with
  | same answer rest found goesOn =>
      have continued := continues answer rest found
      simp only [found, goesOn, Option.bind_some]
      exact continued
  | beyond past comment =>
      refine .beyond (fun more result left read => ?_) ?_
      · rcases Option.bind_eq_some_iff.mp read with ⟨⟨answer, rest⟩, found, later⟩
        exact (shrinks answer _ _ _ later).trans (past more answer rest found)
      · rcases comment with nothing | ⟨answer, found, goesOn⟩
        · exact .inl (by rw [nothing]; rfl)
        · simp only [found, Option.bind_some] at goesOn ⊢
          cases later : next answer [] with
          | none => exact .inl rfl
          | some piece =>
              rcases piece with ⟨result, left⟩
              have nothing := List.suffix_nil.mp (shrinks answer _ _ _ later)
              subst nothing
              refine .inr ⟨result, rfl, fun more line => ?_⟩
              rw [goesOn more line, Option.bind_some, later]

namespace Local

theorem give (answer : α) : Local (Reader.give answer) where
  shrinks := by
    rintro text _ _ ⟨⟩
    exact List.suffix_refl _
  continues text := .same answer text rfl fun _ => rfl

theorem congr {reader other : Reader α} (reads : Local other)
    (same : ∀ text, reader text = other text) : Local reader := by
  rwa [show reader = other from funext same]

theorem fail : Local (Reader.fail : Reader α) where
  shrinks _ _ _ read := nomatch read
  continues _ := .nothing fun _ => rfl

theorem andThen {first : Reader α} {next : α → Reader β} (local₁ : Local first)
    (local₂ : ∀ answer, Local (next answer)) : Local (first.andThen next) where
  shrinks text result left read := by
    rcases Option.bind_eq_some_iff.mp read with ⟨⟨answer, rest⟩, found, later⟩
    exact ((local₂ answer).shrinks _ _ _ later).trans (local₁.shrinks _ _ _ found)
  continues text := (local₁.continues text).andThen (fun answer => (local₂ answer).shrinks)
    fun answer rest _ => (local₂ answer).continues rest

theorem onHead {next : Char → Reader α} (each : ∀ character, Local (next character)) :
    Local (Reader.onHead next) where
  shrinks text answer rest read := by
    cases text with
    | nil => cases read
    | cons character others =>
        exact ((each character).shrinks _ _ _ read).trans (List.suffix_cons _ _)
  continues text := by
    cases text with
    | nil => exact .beyond (fun more answer rest read => (each ')').shrinks _ _ _ read) (.inl rfl)
    | cons character others => exact (each character).continues others

theorem ifSo {test : List Char → Bool} (blind : Blind test) {first second : Reader α}
    (local₁ : Local first) (local₂ : Local second) : Local (Reader.ifSo test first second) where
  shrinks text answer rest read := by
    unfold Reader.ifSo at read
    split at read
    · exact local₁.shrinks _ _ _ read
    · exact local₂.shrinks _ _ _ read
  continues text := by
    unfold ContinuesAt Reader.ifSo
    simp only [blind text]
    by_cases taken : test text = true
    · simp only [taken, if_true]
      exact local₁.continues text
    · simp only [taken]
      exact local₂.continues text

theorem ifPrefix {front : List Char} (free : ')' ∉ front) {first second : Reader α}
    (local₁ : Local first) (local₂ : Local second) : Local (Reader.ifPrefix front first second) where
  shrinks text answer rest read := by
    unfold Reader.ifPrefix at read
    split at read
    · exact (local₁.shrinks _ _ _ read).trans (List.drop_suffix _ _)
    · exact local₂.shrinks _ _ _ read
  continues text := by
    unfold ContinuesAt Reader.ifPrefix
    simp only [blind_front free text]
    by_cases taken : front.isPrefixOf text = true
    · rcases List.isPrefixOf_iff_prefix.mp taken with ⟨rest, rfl⟩
      simp only [taken, if_true, List.append_assoc, List.drop_left]
      exact local₁.continues rest
    · simp only [taken]
      exact local₂.continues text

theorem map {reader : Reader α} (reads : Local reader) (change : α → β) :
    Local (reader.andThen fun answer => Reader.give (change answer)) :=
  reads.andThen fun answer => give (change answer)

theorem ofOption (answer : Option α) {next : α → Reader β} (each : ∀ answer, Local (next answer)) :
    Local fun text => answer.bind fun answer => next answer text := by
  cases answer with
  | none => exact fail
  | some answer => exact each answer

end Local

/-! ## Blanks -/

theorem dropBlanks_cons (spaced inComment : Bool) (character : Char) :
    (∀ rest, dropBlanks spaced inComment (character :: rest) = character :: rest) ∨
      ∃ within, ∀ rest, dropBlanks spaced inComment (character :: rest) = dropBlanks spaced within rest := by
  cases spaced with
  | false => exact .inl fun _ => rfl
  | true =>
      cases inComment with
      | true => exact .inr ⟨character != '\n', fun _ => rfl⟩
      | false =>
          by_cases blank : Text.isBlank character = true
          · exact .inr ⟨false, fun rest => by simp [dropBlanks, blank]⟩
          · by_cases mark : character = '#'
            · subst mark
              exact .inr ⟨true, fun _ => rfl⟩
            · exact .inl fun rest => by simp [dropBlanks, blank, mark]

theorem dropBlanks_suffix (spaced inComment : Bool) (text : List Char) :
    dropBlanks spaced inComment text <:+ text := by
  induction text generalizing inComment with
  | nil => exact List.suffix_refl _
  | cons character rest induction =>
      rcases dropBlanks_cons spaced inComment character with stays | ⟨within, drops⟩
      · rw [stays]
      · rw [drops]
        exact (induction within).trans (List.suffix_cons _ _)

theorem dropBlanks_comment (more : List Char) (line : '\n' ∉ more) :
    dropBlanks true true more = [] := by
  induction more with
  | nil => rfl
  | cons character rest induction =>
      rw [List.mem_cons, not_or] at line
      have same : (character != '\n') = true := bne_iff_ne.mpr (Ne.symm line.1)
      rw [dropBlanks, same]
      exact induction line.2

def blanks (spaced : Bool) : Reader Unit := fun text => some ((), dropBlanks spaced false text)

theorem continuesAt_dropBlanks (spaced inComment : Bool) (text : List Char) :
    ContinuesAt (fun text => some ((), dropBlanks spaced inComment text)) text := by
  induction text generalizing inComment with
  | nil =>
      cases spaced with
      | false => exact .same () [] rfl fun _ => rfl
      | true =>
          cases inComment with
          | false => exact .same () [] rfl fun _ => rfl
          | true =>
              refine .beyond ?_ (.inr ⟨(), rfl, fun more line => ?_⟩)
              · rintro more _ _ ⟨⟩
                exact dropBlanks_suffix true true more
              · exact congrArg (fun rest => some ((), rest)) (dropBlanks_comment more line)
  | cons character rest induction =>
      unfold ContinuesAt
      rcases dropBlanks_cons spaced inComment character with stays | ⟨within, drops⟩
      · simp only [List.cons_append, stays]
        exact .same () (character :: rest) rfl fun _ => rfl
      · simp only [List.cons_append, drops]
        exact induction within

theorem local_blanks (spaced : Bool) : Local (blanks spaced) where
  shrinks := by
    rintro text _ _ ⟨⟩
    exact dropBlanks_suffix spaced false text
  continues := continuesAt_dropBlanks spaced false

theorem dropBlanks_unread {spaced : Bool} {text : List Char}
    (unread : dropBlanks spaced false text = []) (more : List Char) :
    dropBlanks spaced false (text ++ ')' :: more) = ')' :: more ∨
      dropBlanks spaced false (text ++ ')' :: more) <:+ more ∧
        ('\n' ∉ more → dropBlanks spaced false (text ++ ')' :: more) = []) := by
  rcases continuesAt_dropBlanks spaced false text with ⟨_, rest, found, goesOn⟩ | ⟨past, comment⟩
  · cases (Prod.mk.inj (Option.some.inj found)).2.symm.trans unread
    exact .inl (Prod.mk.inj (Option.some.inj (goesOn more))).2
  · refine .inr ⟨past more () _ rfl, fun line => ?_⟩
    rcases comment with ⟨⟨⟩⟩ | ⟨_, found, goesOn⟩
    exact (Prod.mk.inj (Option.some.inj ((goesOn more line).trans found))).2

theorem dropBlanks_front {spaced inComment : Bool} {text rest : List Char} {character : Char}
    (start : dropBlanks spaced inComment text = character :: rest) :
    ∃ front, text = front ++ character :: rest ∧ dropBlanks spaced inComment front = [] ∧
      ∀ other, dropBlanks spaced inComment (front ++ character :: other) = character :: other := by
  induction text generalizing inComment with
  | nil => cases start
  | cons first text induction =>
      rcases dropBlanks_cons spaced inComment first with stays | ⟨within, drops⟩
      · rw [stays, List.cons.injEq] at start
        rcases start with ⟨rfl, rfl⟩
        exact ⟨[], rfl, rfl, stays⟩
      · rw [drops] at start
        rcases induction start with ⟨front, rfl, ended, starts⟩
        exact ⟨first :: front, rfl, (drops front).trans ended, fun other =>
          (drops _).trans (starts other)⟩

theorem Local.afterBlanks (spaced : Bool) {next : Reader α} (reads : Local next) :
    Local fun text => next (dropBlanks spaced false text) :=
  (local_blanks spaced).andThen fun _ => reads

theorem advance_cons (spaced : Bool) (character : Char) (rest : List Char) :
    advance spaced (character :: rest) = dropBlanks spaced false rest := rfl

theorem length_advance_le (spaced : Bool) (character : Char) (rest : List Char) :
    (advance spaced (character :: rest)).length ≤ rest.length :=
  (dropBlanks_suffix spaced false rest).length_le

theorem dropWhile_closing {test : Char → Bool} (stops : test ')' = false) (text more : List Char) :
    (text ++ ')' :: more).dropWhile test = text.dropWhile test ++ ')' :: more := by
  rw [List.dropWhile_append]
  cases text.dropWhile test with
  | nil => simp [stops]
  | cons character rest => rfl

theorem local_dropWhile (test : Char → Bool) (stops : test ')' = false) :
    Local fun text => some ((), text.dropWhile test) where
  shrinks := by
    rintro text _ _ ⟨⟩
    exact List.dropWhile_suffix test
  continues text := .same () (text.dropWhile test) rfl fun more =>
    congrArg (fun rest => some ((), rest)) (dropWhile_closing stops text more)

/-! ## Marks -/

theorem head?_closing {mark : Char} (other : mark ≠ ')') (text more : List Char) :
    ((text ++ ')' :: more).head? == some mark) = (text.head? == some mark) := by
  cases text with
  | nil => simp [Ne.symm other]
  | cons first rest => rfl

theorem head?_closing_ne {mark : Char} (other : mark ≠ ')') {text : List Char}
    (different : text.head? ≠ some mark) (more : List Char) :
    (text ++ ')' :: more).head? ≠ some mark :=
  beq_eq_false_iff_ne.mp ((head?_closing other text more).trans (beq_eq_false_iff_ne.mpr different))

theorem eq_append_cons_or_not_mem (mark : Char) (text : List Char) :
    (∃ front rest, text = front ++ mark :: rest ∧ mark ∉ front) ∨ mark ∉ text := by
  by_cases member : mark ∈ text
  · exact .inl (List.eq_append_cons_of_mem member)
  · exact .inr member

theorem takeWhile_unmarked {mark : Char} {text : List Char} (unmarked : mark ∉ text) :
    text.takeWhile (· != mark) = text :=
  List.takeWhile_eq_self_iff.mpr fun _ member => bne_iff_ne.mpr fun same => unmarked (same ▸ member)

theorem takeWhile_marked {mark : Char} {front : List Char} (unmarked : mark ∉ front)
    (rest : List Char) : (front ++ mark :: rest).takeWhile (· != mark) = front := by
  rw [List.takeWhile_append, takeWhile_unmarked unmarked, if_pos rfl,
    List.takeWhile_cons_of_neg (by simp), List.append_nil]

/-! ## Rounds

A reader that repeats itself is given a number of rounds. It is enough to give it as many as the text
has characters; more of them change nothing. -/

/-- A repetition that reads a character at least in each round, and then goes on with what fewer rounds
make of the rest. -/
structure Rounds {σ γ : Type} (family : Nat → σ → List Char → γ) : Prop where
  ended : ∀ rounds more state, family rounds state [] = family more state []
  step : ∀ rounds more state character rest,
    (∀ state left, left.length ≤ rest.length → family rounds state left = family more state left) →
      family (rounds + 1) state (character :: rest) = family (more + 1) state (character :: rest)

theorem Rounds.enough {σ γ : Type} {family : Nat → σ → List Char → γ} (repeats : Rounds family)
    {rounds more : Nat} (state : σ) {text : List Char} (enough : text.length ≤ rounds)
    (also : text.length ≤ more) : family rounds state text = family more state text := by
  induction rounds generalizing more state text with
  | zero =>
      cases List.length_eq_zero_iff.mp (Nat.le_zero.mp enough)
      exact repeats.ended 0 more state
  | succ rounds induction =>
      cases text with
      | nil => exact repeats.ended (rounds + 1) more state
      | cons character rest =>
          cases more with
          | zero => cases also
          | succ more =>
              refine repeats.step rounds more state character rest fun state left shorter => ?_
              exact induction state (shorter.trans (Nat.le_of_succ_le_succ enough))
                (shorter.trans (Nat.le_of_succ_le_succ also))

theorem Continues.diagonal {short : Option (α × List Char)}
    (longs : List Char → List Char → Option (α × List Char))
    (each : ∀ index, Continues short (longs index))
    (alone : ∀ index, longs index [] = longs [] []) : Continues short fun more => longs more more := by
  have apart {answer : α} {rest : List Char} {index : List Char}
      (found : longs [] [] = some (answer, rest ++ [')']))
      (past : ∀ more answer rest, longs index more = some (answer, rest) → rest <:+ more) : False := by
    have suffix := (past [] answer _ ((alone index).trans found)).length_le
    simp at suffix
  rcases each [] with ⟨answer, rest, found, goesOn⟩ | ⟨past, comment⟩
  · refine .same answer rest found fun more => ?_
    rcases each more with ⟨answer', rest', found', goesOn'⟩ | ⟨past', -⟩
    · cases found.symm.trans found'
      exact goesOn' more
    · exact (apart (goesOn []) past').elim
  · have overEach (index : List Char) :
        (∀ more answer rest, longs index more = some (answer, rest) → rest <:+ more) ∧
        ∀ answer rest, short = some (answer, rest) →
          ∀ more, '\n' ∉ more → longs index more = short := by
      rcases each index with ⟨answer, rest, found, goesOn⟩ | ⟨past', unread | ⟨_, _, goesOn⟩⟩
      · exact (apart ((alone index).symm.trans (goesOn [])) past).elim
      · exact ⟨past', fun _ _ found => nomatch unread.symm.trans found⟩
      · exact ⟨past', fun _ _ _ => goesOn⟩
    refine .beyond (fun more => (overEach more).1 more) (comment.imp_right ?_)
    rintro ⟨answer, found, -⟩
    exact ⟨answer, found, fun more => (overEach more).2 answer [] found more⟩

/-- A repetition that is given enough rounds is local if any number of rounds is. -/
theorem Local.of_rounds {σ : Type} {family : Nat → σ → Reader α} (repeats : Rounds family)
    (each : ∀ rounds state, Local (family rounds state)) (extra : Nat) (state : σ) :
    Local fun text => family (text.length + extra) state text where
  shrinks text answer rest read := (each _ state).shrinks text answer rest read
  continues text := by
    let longs (index more : List Char) : Option (α × List Char) :=
      family ((text ++ ')' :: index).length + extra) state (text ++ ')' :: more)
    have length (index : List Char) : (text ++ ')' :: index).length = text.length + index.length + 1 :=
      List.length_append
    have alone (index : List Char) : longs index [] = longs [] [] :=
      repeats.enough state (by rw [length, length, List.length_nil]; omega) (Nat.le_add_right _ _)
    refine Continues.diagonal longs (fun index => ?_) alone
    have short : family (text.length + extra) state text =
        family ((text ++ ')' :: index).length + extra) state text :=
      repeats.enough state (Nat.le_add_right _ _) (by rw [length]; omega)
    change Continues (family (text.length + extra) state text) (longs index)
    rw [short]
    exact (each _ state).continues text

end DocumentTypes.Pattern
