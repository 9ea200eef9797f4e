import DocumentTypes.Proofs.Readers

/-! # Readers of tokens

Numbers, escapes, counts and the beginnings of groups are read alike whatever stands behind a closing
parenthesis. Only the boundary `\b` looks further than it reads: at a brace that is left for a
repetition, and then the repetition is malformed. -/

namespace DocumentTypes.Pattern

open Text (hexDigit?)

/-! ## Numbers -/

theorem rounds_takeDigits (spaced : Bool) :
    Rounds fun rounds (_ : Unit) text => some (takeDigits spaced rounds text) where
  ended rounds more _ := by cases rounds <;> cases more <;> rfl
  step rounds more _ character rest same := by
    have next := Option.some.inj (same () _ (length_advance_le spaced character rest))
    simp only [takeDigits, next]

theorem local_takeDigits (spaced : Bool) (rounds : Nat) :
    Local fun text => some (takeDigits spaced rounds text) := by
  induction rounds with
  | zero => exact .give []
  | succ rounds induction =>
      have digits (character : Char) := (induction.afterBlanks spaced).map (character :: ·)
      refine (Local.ifSo (blind_head rfl : Blind fun text => text.head?.any Char.isDigit)
        (.onHead digits) (.give [])).congr fun text => ?_
      cases text with
      | nil => rfl
      | cons character rest =>
          by_cases digit : character.isDigit = true
          · simp [takeDigits, Reader.ifSo, Reader.onHead, Reader.andThen, Reader.give, digit,
              advance_cons]
          · simp [takeDigits, Reader.ifSo, Reader.give, digit]

def countOf (digits : List Char) : Option (Option Nat) :=
  if digits.isEmpty then some none
  else if Nat.ofDigitChars 10 digits 0 < countLimit then some (some (Nat.ofDigitChars 10 digits 0))
  else none

theorem local_readCount (spaced : Bool) : Local fun text => some (readCount spaced text) := by
  have digits := Local.of_rounds (rounds_takeDigits spaced) (fun rounds _ =>
    local_takeDigits spaced rounds) 0 ()
  have dropped := local_dropWhile Text.isBlank rfl
  refine (dropped.andThen fun _ => digits.andThen fun digits => dropped.andThen fun _ =>
    (local_blanks spaced).map fun _ => countOf digits).congr fun text => ?_
  simp only [readCount, Reader.andThen, Reader.give, Option.bind_some, blanks, countOf, Nat.add_zero]
  split <;> rfl

theorem local_takeHexFixed? (spaced : Bool) (count value : Nat) :
    Local (takeHexFixed? spaced count value) := by
  induction count generalizing value with
  | zero => exact .give value
  | succ count induction =>
      refine (Local.onHead fun character => .ofOption (hexDigit? character) fun digit =>
        (induction (value * 16 + digit)).afterBlanks spaced).congr fun text => ?_
      cases text <;> rfl

theorem rounds_takeHexBraced? (spaced : Bool) : Rounds (takeHexBraced? spaced) where
  ended rounds more _ := by cases rounds <;> cases more <;> rfl
  step rounds more value character rest same := by
    have next (value : Option Nat) := same value _ (length_advance_le spaced character rest)
    simp only [takeHexBraced?, next]

theorem local_takeHexBraced? (spaced : Bool) (rounds : Nat) (value : Option Nat) :
    Local (takeHexBraced? spaced rounds value) := by
  induction rounds generalizing value with
  | zero => exact .fail
  | succ rounds induction =>
      have closing : Local fun text => value.map fun value => (value, dropBlanks spaced false text) :=
        (Local.ofOption value fun value => (local_blanks spaced).map fun _ => value).congr
          fun text => by cases value <;> rfl
      have digits (character : Char) := Local.ofOption (hexDigit? character) fun digit =>
        (induction (some (value.getD 0 * 16 + digit))).afterBlanks spaced
      refine (Local.ifPrefix (by decide : ')' ∉ ['\x7d']) closing (.onHead digits)).congr
        fun text => ?_
      rcases text with _ | ⟨character, rest⟩
      · rfl
      · by_cases brace : character = '\x7d'
        · subst brace
          rfl
        · simp [takeHexBraced?, Reader.ifPrefix_other brace, Reader.onHead, advance_cons, Option.bind]

theorem local_readHex? (spaced : Bool) (letter : Char) : Local (readHex? spaced letter) := by
  have braced := (Local.of_rounds (rounds_takeHexBraced? spaced)
    (local_takeHexBraced? spaced) 1 none).afterBlanks spaced
  have fixed := local_takeHexFixed? spaced
    (if letter == 'x' then 2 else if letter == 'u' then 4 else 8) 0
  have character (isByte : Bool) (code : Nat) : Local _ :=
    .ofOption (charOfCode? code) fun character => .give (⟨character, isByte⟩ : Literal)
  refine (Local.ifPrefix (by decide : ')' ∉ ['\x7b']) (braced.andThen (character false))
    (fixed.andThen (character (letter == 'x')))).congr fun text => ?_
  rcases text with _ | ⟨opening, rest⟩
  · rfl
  · by_cases brace : opening = '\x7b'
    · subst brace
      rfl
    · simp [readHex?, Reader.ifPrefix_other brace, Reader.andThen, Reader.give, brace]

/-! ## Escapes -/

theorem rounds_takeBraced? (spaced : Bool) :
    Rounds fun rounds (_ : Unit) => takeBraced? spaced rounds where
  ended rounds more _ := by cases rounds <;> cases more <;> rfl
  step rounds more _ character rest same := by
    have next := same () _ (length_advance_le spaced character rest)
    simp only [takeBraced?, next]

theorem local_takeBraced? (spaced : Bool) (rounds : Nat) : Local (takeBraced? spaced rounds) := by
  induction rounds with
  | zero => exact .fail
  | succ rounds induction =>
      have name (character : Char) := (induction.afterBlanks spaced).map (character :: ·)
      refine (Local.ifPrefix (by decide : ')' ∉ ['\x7d']) (.give []) (.onHead name)).congr
        fun text => ?_
      rcases text with _ | ⟨character, rest⟩
      · rfl
      · by_cases brace : character = '\x7d'
        · subst brace
          rfl
        · simp only [takeBraced?, Reader.ifPrefix_other brace, Reader.onHead, Reader.andThen,
            Reader.give, advance_cons, Option.map_eq_bind]
          rfl

theorem local_readProperty? (spaced negated : Bool) : Local (readProperty? spaced negated) := by
  have name := (Local.of_rounds (rounds_takeBraced? spaced) (fun rounds _ =>
    local_takeBraced? spaced rounds) 1 ()).afterBlanks spaced
  have letter (character : Char) := (local_blanks spaced).map fun _ =>
    Node.property (.named (String.singleton character)) negated
  have query := name.map fun name =>
    Node.property (propertyQuery name).1 (negated != (propertyQuery name).2)
  refine (Local.ifPrefix (by decide : ')' ∉ ['\x7b']) query
    (.ifPrefix (by decide : ')' ∉ ['\\']) .fail (.onHead letter))).congr fun text => ?_
  rcases text with _ | ⟨character, rest⟩
  · rfl
  · by_cases brace : character = '\x7b'
    · subst brace
      rfl
    · by_cases slash : character = '\\'
      · subst slash
        rfl
      · simp [readProperty?, Reader.ifPrefix_other brace, Reader.ifPrefix_other slash, Reader.onHead,
          Reader.andThen, Reader.give, blanks, advance_cons]

theorem rounds_takeBoundaryName (spaced : Bool) :
    Rounds fun rounds (_ : Unit) text => some (takeBoundaryName spaced rounds text) where
  ended rounds more _ := by cases rounds <;> cases more <;> rfl
  step rounds more _ character rest same := by
    have next := Option.some.inj (same () _ (length_advance_le spaced character rest))
    simp only [takeBoundaryName, next]

theorem local_takeBoundaryName (spaced : Bool) (rounds : Nat) :
    Local fun text => some (takeBoundaryName spaced rounds text) := by
  induction rounds with
  | zero => exact .give []
  | succ rounds induction =>
      have letters (character : Char) := (induction.afterBlanks spaced).map (character :: ·)
      refine (Local.ifSo (blind_head (by decide) : Blind fun text => text.head?.any isBoundaryLetter)
        (.onHead letters) (.give [])).congr fun text => ?_
      cases text with
      | nil => rfl
      | cons character rest =>
          by_cases letter : isBoundaryLetter character = true
          · simp [takeBoundaryName, Reader.ifSo, Reader.onHead, Reader.andThen, Reader.give, letter,
              advance_cons]
          · simp [takeBoundaryName, Reader.ifSo, Reader.give, letter]

def boundaryNamed? (name : List Char) : Option Boundary :=
  match String.ofList name with
  | "start" => some .wordStart
  | "end" => some .wordEnd
  | "start-half" => some .wordStartHalf
  | "end-half" => some .wordEndHalf
  | _ => none

/-- A boundary with a name in braces, from the name on. -/
def namedBoundary? (spaced : Bool) (text : List Char) : Option (Node × List Char) :=
  match takeBoundaryName spaced text.length text with
  | (name, '\x7d' :: rest) => (boundaryNamed? name).map fun boundary => (.boundary boundary, rest)
  | _ => none

theorem local_namedBoundary? (spaced : Bool) : Local (namedBoundary? spaced) := by
  have name := Local.of_rounds (rounds_takeBoundaryName spaced) (fun rounds _ =>
    local_takeBoundaryName spaced rounds) 0 ()
  refine (name.andThen fun name => .ifPrefix (by decide : ')' ∉ ['\x7d'])
    (.ofOption (boundaryNamed? name) fun boundary => .give (.boundary boundary)) .fail).congr
      fun text => ?_
  simp only [namedBoundary?, Reader.andThen, Option.bind_some, Nat.add_zero]
  rcases takeBoundaryName spaced text.length text with ⟨name, _ | ⟨character, rest⟩⟩
  · rfl
  · by_cases brace : character = '\x7d'
    · subst brace
      simp only [Reader.ifPrefix_self, Reader.give, Option.map_eq_bind]
      rfl
    · simp [Reader.ifPrefix_other brace, Reader.fail, brace]

/-! ## Counts -/

theorem local_dropLazyMark : Local fun text => some ((), dropLazyMark text) := by
  refine (Local.ifPrefix (by decide : ')' ∉ ['?']) (.give ()) (.give ())).congr fun text => ?_
  rcases text with _ | ⟨character, rest⟩
  · rfl
  · by_cases mark : character = '?'
    · subst mark
      rfl
    · simp [dropLazyMark, Reader.ifPrefix_other mark, Reader.give, mark]

/-- The bounds of a counted repetition, from the text after its brace. -/
def countBounds? (spaced : Bool) : Reader (Nat × Option Nat) := fun text =>
  (readCounts? spaced ('\x7b' :: text)).map fun counts => ((counts.1, counts.2.1), counts.2.2)

/-- The bounds of a repetition, from what stands behind its first count. -/
def boundsFrom (spaced : Bool) (least : Option (Option Nat)) : Reader (Nat × Option Nat) :=
  let exactly : Reader (Nat × Option Nat) := fun text =>
    least.bind fun least => least.bind fun count => some ((count, some count), text)
  let upwards : Reader (Nat × Option Nat) := fun text =>
    least.bind fun least => least.bind fun least => some ((least, none), text)
  let between : Reader (Nat × Option Nat) := fun text =>
    let (most, rest) := readCount spaced text
    least.bind fun least => most.bind fun most => least.bind fun least => most.bind fun most =>
      some ((least, some most), rest)
  Reader.ifPrefix [','] (fun text => Reader.ifSo (fun text => text.head?.any (· == '\x7d')) upwards between
    (dropBlanks spaced false text)) exactly

/-- Bounds in the right order, from their closing brace on. -/
def closedBounds (spaced : Bool) (bounds : Nat × Option Nat) : Reader (Nat × Option Nat) :=
  Reader.ifPrefix ['\x7d'] (fun text => if bounds.2.all (bounds.1 ≤ ·) then
    some (bounds, dropLazyMark (dropBlanks spaced false text)) else none) Reader.fail

theorem local_boundsFrom (spaced : Bool) (least : Option (Option Nat)) :
    Local (boundsFrom spaced least) := by
  have exactly : Local _ := .ofOption least fun least =>
    .ofOption least fun count => .give (count, some count)
  have upwards : Local _ := .ofOption least fun least =>
    .ofOption least fun least => .give (least, (none : Option Nat))
  have between : Local _ := (local_readCount spaced).andThen fun most =>
    .ofOption least fun least => .ofOption most fun most => .ofOption least fun least =>
      .ofOption most fun most => .give (least, some most)
  exact .ifPrefix (by decide) ((Local.ifSo (blind_head rfl) upwards between).afterBlanks spaced) exactly

theorem local_closedBounds (spaced : Bool) (bounds : Nat × Option Nat) :
    Local (closedBounds spaced bounds) := by
  have ordered : Local _ := .ofOption (if bounds.2.all (bounds.1 ≤ ·) then some bounds else none)
    fun bounds => (local_dropLazyMark.afterBlanks spaced).map fun _ => bounds
  refine (Local.ifPrefix (by decide : ')' ∉ ['\x7d']) ordered .fail).congr fun text => ?_
  unfold closedBounds
  split <;> rfl

theorem countBounds?_eq (spaced : Bool) (text : List Char) :
    let (least, rest) := readCount spaced (dropBlanks spaced false text)
    countBounds? spaced text = (boundsFrom spaced least).andThen (closedBounds spaced) rest := by
  simp only [countBounds?, readCounts?, advance_cons, Reader.andThen, boundsFrom]
  rcases readCount spaced (dropBlanks spaced false text) with ⟨least, rest⟩
  rcases rest with _ | ⟨character, rest⟩
  · rcases least with _ | _ | least <;> rfl
  by_cases comma : character = ','
  · subst comma
    simp only [advance_cons, Reader.ifPrefix_self]
    rcases dropBlanks spaced false rest with _ | ⟨next, rest⟩
    · rcases least with _ | _ | least <;> rfl
    by_cases brace : next = '\x7d'
    · subst brace
      rcases least with _ | _ | least <;> rfl
    · split
      next tail same => exact (brace (List.cons.inj same).1).elim
      next =>
        simp only [Reader.ifSo, Option.any_some, brace, beq_iff_eq, if_false, List.head?_cons]
        rcases readCount spaced (next :: rest) with ⟨most, rest⟩
        rcases least with _ | _ | least <;> rcases most with _ | _ | most <;> try rfl
        rcases rest with _ | ⟨last, rest⟩
        · rfl
        · by_cases closed : last = '\x7d'
          · subst closed
            by_cases ordered : least ≤ most <;> simp [closedBounds, advance_cons, ordered]
          · simp [closedBounds, Reader.ifPrefix_other closed, Reader.fail, closed]
  · rcases least with _ | _ | least
    · simp [Reader.ifPrefix_other comma, comma]
    · simp [Reader.ifPrefix_other comma, comma]
    · by_cases brace : character = '\x7d'
      · subst brace
        simp [closedBounds, Reader.ifPrefix_other comma, advance_cons]
      · simp [closedBounds, Reader.ifPrefix_other comma, Reader.ifPrefix_other brace, Reader.fail,
          comma, brace]

theorem local_countBounds? (spaced : Bool) : Local (countBounds? spaced) :=
  (((local_readCount spaced).afterBlanks spaced).andThen fun least =>
    (local_boundsFrom spaced least).andThen (local_closedBounds spaced)).congr (countBounds?_eq spaced)

theorem countBounds?_closing {spaced : Bool} {text : List Char}
    (closing : dropBlanks spaced false text = [] ∨
      ∃ more, dropBlanks spaced false text = ')' :: more) : countBounds? spaced text = none := by
  rcases closing with ended | ⟨more, closing⟩
  · have nothing : readCount spaced [] = (some none, []) := rfl
    simp [countBounds?, readCounts?, advance_cons, ended, nothing]
  · have stays : dropBlanks spaced false (')' :: more) = ')' :: more := by cases spaced <;> rfl
    have kept : (')' :: more).dropWhile Text.isBlank = ')' :: more := rfl
    have uncounted : readCount spaced (')' :: more) = (some none, ')' :: more) := by
      simp [readCount, kept, takeDigits, stays]
    simp [countBounds?, readCounts?, advance_cons, closing, uncounted]

/-! ## The boundary of words -/

/-- A reader that takes nothing from a text that ends in an open brace. With a closing parenthesis
behind the text it may leave the brace, or read over the parenthesis. -/
def StrandsAt (spaced : Bool) (reader : Reader α) (text : List Char) : Prop :=
  ∃ front counts, text = front ++ '\x7b' :: counts ∧ dropBlanks spaced false counts = [] ∧
    reader text = none ∧ ∀ more answer rest, reader (text ++ ')' :: more) = some (answer, rest) →
      rest = '\x7b' :: counts ++ ')' :: more ∨ rest <:+ more

theorem readWordBoundary?_brace (spaced : Bool) (text : List Char) :
    readWordBoundary? spaced ('\x7b' :: text) = match dropBlanks spaced false text with
      | [] => none
      | character :: rest =>
        if !isBoundaryLetter character then some (.boundary .word, '\x7b' :: text)
        else namedBoundary? spaced (character :: rest) := by
  simp only [readWordBoundary?, advance_cons, namedBoundary?, boundaryNamed?]
  rcases dropBlanks spaced false text with _ | ⟨character, rest⟩
  · rfl
  dsimp only
  congr 1
  rcases takeBoundaryName spaced (character :: rest).length (character :: rest) with
    ⟨name, _ | ⟨closing, rest⟩⟩
  · rfl
  by_cases brace : closing = '\x7d'
  · subst brace
    simp only [Option.map]
    split <;> simp_all
  · simp [brace]

theorem readWordBoundary?_other {spaced : Bool} {text : List Char} (other : text.head? ≠ some '\x7b') :
    readWordBoundary? spaced text = some (.boundary .word, text) := by
  rcases text with _ | ⟨character, rest⟩
  · rfl
  · have different : character ≠ '\x7b' := fun same => other (congrArg some same)
    simp [readWordBoundary?, different]

theorem readWordBoundary?_shrinks (spaced : Bool) : Shrinks (readWordBoundary? spaced) := by
  intro text answer rest read
  by_cases brace : text.head? = some '\x7b'
  · rcases List.head?_eq_some_iff.mp brace with ⟨name, rfl⟩
    have suffix := (dropBlanks_suffix spaced false name).trans (List.suffix_cons '\x7b' name)
    rw [readWordBoundary?_brace] at read
    generalize dropBlanks spaced false name = start at read suffix
    rcases start with _ | ⟨character, others⟩
    · cases read
    · dsimp only at read
      split at read
      · cases read
        exact List.suffix_refl _
      · exact ((local_namedBoundary? spaced).shrinks _ _ _ read).trans suffix
  · rw [readWordBoundary?_other brace] at read
    cases read
    exact List.suffix_refl _

theorem readWordBoundary?_continues (spaced : Bool) (text : List Char) :
    ContinuesAt (readWordBoundary? spaced) text ∨ StrandsAt spaced (readWordBoundary? spaced) text := by
  by_cases brace : text.head? = some '\x7b'
  · rcases List.head?_eq_some_iff.mp brace with ⟨name, rfl⟩
    by_cases unread : dropBlanks spaced false name = []
    · refine .inr ⟨[], name, rfl, unread, by rw [readWordBoundary?_brace, unread], ?_⟩
      intro more answer rest read
      rw [List.cons_append, readWordBoundary?_brace] at read
      have place := dropBlanks_unread unread more
      generalize dropBlanks spaced false (name ++ ')' :: more) = start at read place
      rcases start with _ | ⟨character, others⟩
      · cases read
      · dsimp only at read
        split at read
        next => exact .inl (Prod.mk.inj (Option.some.inj read)).2.symm
        next letter =>
          rcases place with closing | past
          · cases closing
            exact absurd rfl letter
          · exact .inr (((local_namedBoundary? spaced).shrinks _ _ _ read).trans past.1)
    · refine .inl ?_
      unfold ContinuesAt
      simp only [List.cons_append, readWordBoundary?_brace]
      rcases continuesAt_dropBlanks spaced false name with ⟨_, start, found, goesOn⟩ | ⟨-, comment⟩
      · simp only [Option.some.injEq, Prod.mk.injEq, true_and] at found goesOn
        simp only [found, goesOn]
        rcases start with _ | ⟨character, rest⟩
        · exact (unread found).elim
        by_cases letter : isBoundaryLetter character = true
        · simp only [List.cons_append, letter, Bool.not_true, Bool.false_eq_true, if_false]
          exact (local_namedBoundary? spaced).continues (character :: rest)
        · simp only [List.cons_append, letter, Bool.not_false, if_true]
          exact .same _ _ rfl fun _ => rfl
      · rcases comment with ⟨⟨⟩⟩ | ⟨_, found, -⟩
        exact (unread (Prod.mk.inj (Option.some.inj found)).2).elim
  · exact .inl (.same _ _ (readWordBoundary?_other brace) fun more =>
      readWordBoundary?_other (head?_closing_ne (by decide) brace more))

/-! ## Escapes -/

def escapeGoesOn (character : Char) : Bool :=
  character == 'x' || character == 'u' || character == 'U' || character == 'p' ||
    character == 'P' || character == 'b'

theorem readEscape?_plain {spaced : Bool} {character : Char} (plain : escapeGoesOn character = false)
    (rest : List Char) : readEscape? spaced (character :: rest) =
      ((readEscape? spaced [character]).map Prod.fst).map fun node => (node, rest) := by
  simp only [escapeGoesOn, Bool.or_eq_false_iff, beq_eq_false_iff_ne] at plain
  simp only [readEscape?]
  split <;> simp_all
  split <;> simp [Function.comp_def]

theorem local_readEscape? (spaced : Bool) {character : Char} (other : character ≠ 'b') :
    Local fun rest => readEscape? spaced (character :: rest) := by
  by_cases plain : escapeGoesOn character = false
  · exact (Local.ofOption ((readEscape? spaced [character]).map Prod.fst) .give).congr fun rest => by
      rw [readEscape?_plain plain, Option.map_eq_bind]
      rfl
  · have hex (letter : Char) : Local fun rest => (readHex? spaced letter (dropBlanks spaced false rest)).map
        fun piece => (Node.literal piece.1, piece.2) :=
      ((local_readHex? spaced letter).afterBlanks spaced).map Node.literal |>.congr fun rest => by
        simp only [Reader.andThen, Reader.give, Option.map_eq_bind]
        rfl
    have property (negated : Bool) := (local_readProperty? spaced negated).afterBlanks spaced
    simp only [escapeGoesOn, Bool.not_eq_false, Bool.or_eq_true, beq_iff_eq, other, or_false] at plain
    rcases plain with (((rfl | rfl) | rfl) | rfl) | rfl
    · exact hex 'x'
    · exact hex 'u'
    · exact hex 'U'
    · exact property false
    · exact property true

theorem readEscape?_continues (spaced : Bool) (text : List Char) :
    ContinuesAt (readEscape? spaced) text ∨ StrandsAt spaced (readEscape? spaced) text := by
  rcases text with _ | ⟨character, rest⟩
  · refine .inl (.beyond (fun more answer rest read => ?_) (.inl rfl))
    exact (local_readEscape? spaced (show ')' ≠ 'b' by decide)).shrinks more answer rest read
  · by_cases word : character = 'b'
    · subst word
      refine (readWordBoundary?_continues spaced rest).imp id ?_
      rintro ⟨front, counts, rfl, strands⟩
      exact ⟨'b' :: front, counts, rfl, strands⟩
    · exact .inl ((local_readEscape? spaced word).continues rest)

theorem readEscape?_shrinks (spaced : Bool) : Shrinks (readEscape? spaced) := by
  rintro (_ | ⟨character, text⟩) node rest read
  · cases read
  · refine List.IsSuffix.trans ?_ (List.suffix_cons character text)
    by_cases word : character = 'b'
    · subst word
      exact readWordBoundary?_shrinks spaced _ _ _ read
    · exact (local_readEscape? spaced word).shrinks _ _ _ read

/-! ## Groups -/

def flagsAndStop? (negated dangling : Bool) (changes : FlagChanges) :
    Reader (FlagChanges × Char) := fun text =>
  (readFlags? negated dangling changes text).map fun piece => ((piece.1, piece.2.1), piece.2.2)

theorem flagsAndStop?_cons (negated dangling : Bool) (changes : FlagChanges) (character : Char) :
    (∃ answer : Option (FlagChanges × Char), ∀ rest, flagsAndStop? negated dangling changes (character :: rest) =
      answer.map fun answer => (answer, rest)) ∨
    ∃ negated' dangling' changes', ∀ rest, flagsAndStop? negated dangling changes (character :: rest) =
      flagsAndStop? negated' dangling' changes' rest := by
  by_cases stop : (character == ':' || character == ')') = true
  · refine .inl ⟨if dangling then none else some (changes.reverse, character), fun rest => ?_⟩
    cases dangling <;> simp [flagsAndStop?, readFlags?, stop]
  · by_cases minus : (character == '-') = true
    · cases negated with
      | false =>
          exact .inr ⟨true, true, changes, fun rest => by simp [flagsAndStop?, readFlags?, stop, minus]⟩
      | true => exact .inl ⟨none, fun rest => by simp [flagsAndStop?, readFlags?, stop, minus]⟩
    · cases named : flag? character with
      | none => exact .inl ⟨none, fun rest => by simp [flagsAndStop?, readFlags?, stop, minus, named]⟩
      | some flag =>
          by_cases repeated : (changes.any fun change => change.1 == flag) = true
          · exact .inl ⟨none, fun rest => by
              simp [flagsAndStop?, readFlags?, stop, minus, named, repeated]⟩
          · exact .inr ⟨negated, false, (flag, !negated) :: changes, fun rest => by
              simp [flagsAndStop?, readFlags?, stop, minus, named, repeated]⟩

theorem local_flagsAndStop? (negated dangling : Bool) (changes : FlagChanges) :
    Local (flagsAndStop? negated dangling changes) := by
  have shrinks (text : List Char) : ∀ (negated dangling : Bool) (changes : FlagChanges) answer rest,
      flagsAndStop? negated dangling changes text = some (answer, rest) → rest <:+ text := by
    induction text with
    | nil => exact fun _ _ _ _ _ read => nomatch read
    | cons character text induction =>
        intro negated dangling changes answer rest read
        rcases flagsAndStop?_cons negated dangling changes character with ⟨_ | stop, ends⟩ | ⟨_, _, _, goesOn⟩
        · cases (ends text).symm.trans read
        · cases (ends text).symm.trans read
          exact List.suffix_cons _ _
        · exact (induction _ _ _ _ _ ((goesOn text).symm.trans read)).trans (List.suffix_cons _ _)
  refine ⟨fun text => shrinks text negated dangling changes, fun text => ?_⟩
  induction text generalizing negated dangling changes with
  | nil =>
      refine .beyond (fun more answer rest read => ?_) (.inl rfl)
      cases dangling <;> cases read
      exact List.suffix_refl _
  | cons character text induction =>
      unfold ContinuesAt
      rcases flagsAndStop?_cons negated dangling changes character with ⟨_ | stop, ends⟩ | ⟨_, _, _, goesOn⟩
      · simp only [List.cons_append, ends]
        exact .nothing fun _ => rfl
      · simp only [List.cons_append, ends]
        exact .same stop text rfl fun _ => rfl
      · simp only [List.cons_append, goesOn]
        exact induction _ _ _

/-- A group is named by what stands before the first closing angle bracket. -/
def groupName? : List Char → Option String
  | [] => none
  | first :: others =>
    if isNameStart first && others.all isNameRest then some (String.ofList (first :: others)) else none

theorem readGroupName?_closed {name : List Char} (rest : List Char) (closed : '>' ∉ name) :
    readGroupName? (name ++ '>' :: rest) = (groupName? name).map fun name => (name, rest) := by
  rw [readGroupName?, takeWhile_marked closed, List.drop_left]
  cases name with
  | nil => rfl
  | cons first others =>
      by_cases named : (isNameStart first && others.all isNameRest) = true <;> simp [groupName?, named]

theorem readGroupName?_open {text : List Char} (unclosed : '>' ∉ text) : readGroupName? text = none := by
  rw [readGroupName?, takeWhile_unmarked unclosed, List.drop_length]
  cases text <;> rfl

theorem local_readGroupName? : Local readGroupName? := by
  have shrinks (text : List Char) (answer : String) (rest : List Char)
      (read : readGroupName? text = some (answer, rest)) :
      ∃ name, text = name ++ '>' :: rest ∧ '>' ∉ name := by
    rcases eq_append_cons_or_not_mem '>' text with ⟨name, after, rfl, closed⟩ | unclosed
    · rw [readGroupName?_closed after closed] at read
      rcases Option.map_eq_some_iff.mp read with ⟨_, -, ⟨⟩⟩
      exact ⟨name, rfl, closed⟩
    · cases (readGroupName?_open unclosed).symm.trans read
  refine ⟨fun text answer rest read => ?_, fun text => ?_⟩
  · rcases shrinks text answer rest read with ⟨name, rfl, -⟩
    exact (List.suffix_cons '>' rest).trans (List.suffix_append name _)
  · unfold ContinuesAt
    rcases eq_append_cons_or_not_mem '>' text with ⟨name, after, rfl, closed⟩ | unclosed
    · simp only [List.append_assoc, List.cons_append, readGroupName?_closed _ closed]
      cases groupName? name with
      | none => exact .nothing fun _ => rfl
      | some name => exact .same name after rfl fun _ => rfl
    · refine .beyond (fun more answer rest read => ?_) (.inl (readGroupName?_open unclosed))
      rcases shrinks _ answer rest read with ⟨name, whole, -⟩
      rcases List.append_eq_append_iff.mp whole with ⟨before, -, parted⟩ | ⟨before, parted, closing⟩
      · rcases List.cons_eq_append_iff.mp parted with ⟨-, ⟨⟩⟩ | ⟨others, -, rfl⟩
        exact ⟨others ++ ['>'], by simp⟩
      · rcases List.cons_eq_append_iff.mp closing with ⟨-, ⟨⟩⟩ | ⟨others, rfl, -⟩
        exact (unclosed (by simp [parted])).elim

theorem local_readOpening? (spaced : Bool) : Local (readOpening? spaced) := by
  have name := local_readGroupName?.map fun name => Opening.capturing (some name)
  have flags := (local_flagsAndStop? false false []).andThen fun flags => Local.ofOption
    (if flags.2 == ')' then (if flags.1.isEmpty then none else some (Opening.switches flags.1))
      else some (.plain flags.1)) .give
  have marked := Local.ifPrefix (by decide : ')' ∉ ['=']) .fail
    (.ifPrefix (by decide : ')' ∉ ['!']) .fail
    (.ifPrefix (by decide : ')' ∉ ['<', '=']) .fail
    (.ifPrefix (by decide : ')' ∉ ['<', '!']) .fail
    (.ifPrefix (by decide : ')' ∉ ['P', '<']) name
    (.ifPrefix (by decide : ')' ∉ ['<']) name flags)))))
  have opening := Local.ifPrefix (by decide : ')' ∉ ['?']) marked (.give (.capturing none))
  refine (opening.afterBlanks spaced).congr fun text => ?_
  simp only [readOpening?]
  generalize dropBlanks spaced false text = start
  split
  · rfl
  · rfl
  · rfl
  · rfl
  · rfl
  next rest before behind =>
    have unequal : ['='].isPrefixOf rest = false := isPrefixOf_eq_false before
    have unmarked : ['!'].isPrefixOf rest = false := isPrefixOf_eq_false behind
    simp [Reader.ifPrefix, unequal, unmarked, Reader.andThen, Reader.give]
  next rest ahead notAhead behind notBehind named named' =>
    have unlike (front : List Char) (other : ∀ tail, rest = front ++ tail → False) :=
      isPrefixOf_eq_false other
    simp only [Reader.ifPrefix, unlike ['='] ahead, unlike ['!'] notAhead,
      unlike ['<', '='] behind, unlike ['<', '!'] notBehind, unlike ['P', '<'] named,
      unlike ['<'] named', List.isPrefixOf, beq_self_eq_true, Bool.and_self, if_true,
      Bool.false_eq_true, if_false, List.length_singleton, List.drop_succ_cons, List.drop_zero,
      Reader.andThen, flagsAndStop?]
    rcases readFlags? false false [] rest with _ | ⟨changes, stop, after⟩
    · rfl
    · by_cases closing : stop = ')'
      · cases changes <;> simp [closing, Reader.give]
      · simp [closing, Reader.give]
  next _ _ unasked =>
    have unlike : ['?'].isPrefixOf start = false := isPrefixOf_eq_false unasked
    simp only [Reader.ifPrefix, unlike]
    rfl

end DocumentTypes.Pattern
