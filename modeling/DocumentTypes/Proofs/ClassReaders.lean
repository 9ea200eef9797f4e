import DocumentTypes.Proofs.TokenReaders

/-! # Readers of classes

A bracketed class is read alike whatever stands behind a closing parenthesis: the parenthesis is one
of its characters, or stands behind its last bracket. -/

namespace DocumentTypes.Pattern

variable {α β : Type}

/-! ## Single characters -/

def isBoundary : Node → Bool
  | .boundary _ => true
  | _ => false

theorem isBoundary_of_readWordBoundary? {spaced : Bool} {text rest : List Char} {node : Node}
    (read : readWordBoundary? spaced text = some (node, rest)) : isBoundary node = true := by
  by_cases brace : text.head? = some '\x7b'
  · rcases List.head?_eq_some_iff.mp brace with ⟨name, rfl⟩
    rw [readWordBoundary?_brace] at read
    split at read
    · cases read
    · split at read
      · cases read
        rfl
      · unfold namedBoundary? at read
        split at read
        · rcases Option.map_eq_some_iff.mp read with ⟨_, -, ⟨⟩⟩
          rfl
        · cases read
  · rw [readWordBoundary?_other brace] at read
    cases read
    rfl

/-- A character or escape of a class that can be one of its members. -/
def classPiece? (spaced : Bool) : Reader Node := fun text =>
  (readClassPrimitive? spaced text).filter fun piece => !isBoundary piece.1

theorem Local.filter (keeps : α → Bool) {reader : Reader α} (reads : Local reader) :
    Local fun text => (reader text).filter fun piece => keeps piece.1 := by
  have kept (answer : α) := Local.ofOption (if keeps answer then some answer else none) .give
  refine (reads.andThen kept).congr fun text => ?_
  rcases found : reader text with _ | ⟨answer, rest⟩
  · simp [Reader.andThen, found]
  · by_cases keep : keeps answer = true <;> simp [Reader.andThen, Reader.give, found, keep]

theorem local_classPiece? (spaced : Bool) (character : Char) :
    Local fun rest => classPiece? spaced (character :: rest) := by
  by_cases slash : character = '\\'
  · subst slash
    have escaped (letter : Char) : Local fun rest =>
        (readEscape? spaced (letter :: rest)).filter fun piece => !isBoundary piece.1 := by
      by_cases word : letter = 'b'
      · subst word
        refine Local.fail.congr fun rest => Option.filter_eq_none_iff.mpr fun piece read => ?_
        simp [isBoundary_of_readWordBoundary? read]
      · exact (local_readEscape? spaced word).filter fun node => !isBoundary node
    exact (Local.onHead escaped).congr fun rest => by cases rest <;> rfl
  · refine (Local.give (.literal ⟨character, false⟩)).congr fun rest => ?_
    simp [classPiece?, readClassPrimitive?, isBoundary, Reader.give]

theorem local_classPiece (spaced : Bool) : Local (classPiece? spaced) :=
  (Local.onHead (local_classPiece? spaced)).congr fun text => by cases text <;> rfl

/-! ## Ranges -/

def rangeGoesOn (spaced : Bool) (text : List Char) : Bool :=
  text.head? == some '-' && !(peek? spaced text == some ']' || peek? spaced text == some '-')

theorem peek?_closing {character : Char} (other : character ≠ ')') (spaced : Bool) (first : Char)
    (text more : List Char) : (peek? spaced (first :: text ++ ')' :: more) == some character) =
      (peek? spaced (first :: text) == some character) := by
  cases spaced with
  | false => exact head?_closing other text more
  | true =>
      have blanks (text : List Char) : (text ++ ')' :: more).dropWhile Text.isBlank =
          text.dropWhile Text.isBlank ++ ')' :: more := dropWhile_closing rfl text more
      simp only [peek?, List.cons_append, List.tail_cons, blanks]
      rcases text.dropWhile Text.isBlank with _ | ⟨next, rest⟩
      · exact head?_closing other [] more
      · by_cases mark : next = '#'
        · subst mark
          simp only [Bool.not_true, Bool.false_eq_true, if_false, List.cons_append, blanks]
          exact head?_closing other _ more
        · simp [mark]

theorem blind_rangeGoesOn (spaced : Bool) : Blind (rangeGoesOn spaced) := by
  rintro (_ | ⟨first, text⟩) more
  · rfl
  · simp only [rangeGoesOn, peek?_closing (by decide : ']' ≠ ')'), peek?_closing (by decide : '-' ≠ ')')]
    rfl

def rangeBetween? : Node → Node → Option ClassSet
  | .literal low, .literal high =>
    if low.character ≤ high.character then some (.range low high) else none
  | _, _ => none

/-- An item of a class, also where the text ends behind it. -/
def classRange? (spaced : Bool) (text : List Char) : Option (ClassSet × List Char) := do
  let (first, rest) ← classPiece? spaced text
  let rest := dropBlanks spaced false rest
  if rangeGoesOn spaced rest then
    let (last, rest) ← classPiece? spaced (advance spaced rest)
    (rangeBetween? first last).map fun range => (range, rest)
  else (classItem? first).map fun item => (item, rest)

theorem range_filter (first : Node) (last : Option (Node × List Char)) :
    (last.bind fun piece => match first, piece.1 with
      | .literal low, .literal high =>
        if low.character ≤ high.character then some (ClassSet.range low high, piece.2) else none
      | _, _ => none) = (last.filter fun piece => !isBoundary piece.1).bind fun piece =>
        (rangeBetween? first piece.1).map fun range => (range, piece.2) := by
  rcases last with _ | ⟨last, rest⟩
  · rfl
  · cases last <;> cases first <;> simp [isBoundary, rangeBetween?, Option.filter]

theorem readClassRange?_bind {spaced : Bool} (next : ClassSet → Reader β)
    (ends : ∀ item, next item [] = none) (text : List Char) :
    ((readClassRange? spaced text).bind fun piece => next piece.1 piece.2) =
      (classRange? spaced text).bind fun piece => next piece.1 piece.2 := by
  unfold readClassRange? classRange? classPiece?
  rcases readClassPrimitive? spaced text with _ | ⟨first, rest⟩
  · rfl
  simp only [Option.bind_eq_bind, Option.bind_some]
  by_cases boundary : isBoundary first = true
  · cases first <;> cases boundary
    rcases dropBlanks spaced false rest with _ | ⟨character, rest⟩
    · rfl
    · simp [classItem?, isBoundary, Option.filter]
      cases advance spaced (character :: rest) <;> simp
  · rw [Option.filter_some_pos (by simpa using boundary), Option.bind_some]
    dsimp only
    generalize dropBlanks spaced false rest = rest
    rcases rest with _ | ⟨character, rest⟩
    · cases classItem? first <;> simp [rangeGoesOn, ends]
    · have test : (character != '-' || peek? spaced (character :: rest) == some ']' ||
          peek? spaced (character :: rest) == some '-') = !rangeGoesOn spaced (character :: rest) := by
        simp [rangeGoesOn, Bool.or_assoc, bne]
      dsimp only
      rw [test]
      by_cases goesOn : rangeGoesOn spaced (character :: rest) = true
      · simp only [goesOn, Bool.not_true, Bool.false_eq_true, if_false, if_true]
        rw [← range_filter]
        cases advance spaced (character :: rest) <;> rfl
      · simp only [goesOn, Bool.not_false, if_true]
        rfl

theorem local_classRange? (spaced : Bool) (character : Char) :
    Local fun rest => classRange? spaced (character :: rest) := by
  have item (first : Node) : Local _ := .ofOption (classItem? first) .give
  have range (first last : Node) : Local _ := .ofOption (rangeBetween? first last) .give
  have goesOn (first : Node) : Local _ := .onHead fun _ =>
    ((local_classPiece spaced).andThen (range first)).afterBlanks spaced
  refine ((local_classPiece? spaced character).andThen fun first =>
    (Local.ifSo (blind_rangeGoesOn spaced) (goesOn first) (item first)).afterBlanks spaced).congr
      fun text => ?_
  unfold classRange?
  rcases found : classPiece? spaced (character :: text) with _ | ⟨first, rest⟩
  · simp [Reader.andThen, found]
  simp only [Reader.andThen, found, Option.bind_eq_bind, Option.bind_some, Reader.ifSo, Reader.give,
    Option.map_eq_bind]
  rcases dropBlanks spaced false rest with _ | ⟨next, rest⟩ <;> rfl

theorem classRange?_shrinks {spaced : Bool} {text rest : List Char} {item : ClassSet}
    (read : classRange? spaced text = some (item, rest)) : rest.length < text.length := by
  cases text with
  | nil => cases read
  | cons character text =>
      exact Nat.lt_succ_of_le ((local_classRange? spaced character).shrinks _ _ _ read).length_le

theorem local_classRange (spaced : Bool) : Local (classRange? spaced) :=
  (Local.onHead (local_classRange? spaced)).congr fun text => by cases text <;> rfl

/-! ## Named classes -/

def namedClass? (negated : Bool) (text : List Char) : Option (ClassSet × List Char) :=
  let name := text.takeWhile (· != ':')
  match text.drop name.length with
  | ':' :: ']' :: rest =>
    (asciiClass? (String.ofList name)).map fun name => (.ascii name negated, rest)
  | _ => none

/-- Whether a named class is negated, and its name with what follows. -/
def withoutCaret (text : List Char) : Bool × List Char :=
  match text with
  | '^' :: tail => (true, tail)
  | _ => (false, text)

theorem withoutCaret_other {first : Char} (other : first ≠ '^') (rest : List Char) :
    withoutCaret (first :: rest) = (false, first :: rest) := by
  simp [withoutCaret, other]

theorem withoutCaret_suffix (text : List Char) : (withoutCaret text).2 <:+ text := by
  unfold withoutCaret
  split
  · exact List.suffix_cons _ _
  · exact List.suffix_refl _

theorem withoutCaret_closing (text more : List Char) : withoutCaret (text ++ ')' :: more) =
    ((withoutCaret text).1, (withoutCaret text).2 ++ ')' :: more) := by
  rcases text with _ | ⟨first, rest⟩
  · rfl
  · by_cases caret : first = '^'
    · subst caret
      rfl
    · rw [List.cons_append, withoutCaret_other caret, withoutCaret_other caret, List.cons_append]

theorem readAsciiClass?_colon (text : List Char) :
    readAsciiClass? (':' :: text) = namedClass? (withoutCaret text).1 (withoutCaret text).2 := rfl

theorem namedClass?_closed {name : List Char} (closed : ':' ∉ name) (negated : Bool)
    (rest : List Char) : namedClass? negated (name ++ ':' :: rest) = match rest with
      | ']' :: rest => (asciiClass? (String.ofList name)).map fun name => (.ascii name negated, rest)
      | _ => none := by
  simp only [namedClass?, takeWhile_marked closed, List.drop_left]
  split <;> split <;> simp_all

theorem namedClass?_open {text : List Char} (unclosed : ':' ∉ text) (negated : Bool) :
    namedClass? negated text = none := by
  simp [namedClass?, takeWhile_unmarked unclosed]

theorem asciiClass?_parenthesis {name : List Char} (member : ')' ∈ name) :
    asciiClass? (String.ofList name) = none := by
  unfold asciiClass?
  split
  case h_15 => rfl
  all_goals
    next same =>
      rw [← String.toList_ofList (l := name), same] at member
      exact absurd member (by decide)

/-- A reader that no closing parenthesis keeps from ending. -/
structure Firm (reader : Reader α) : Prop where
  shrinks : Shrinks reader
  closing : ∀ text more, reader (text ++ ')' :: more) =
    (reader text).map fun piece => (piece.1, piece.2 ++ ')' :: more)

theorem firm_namedClass? (negated : Bool) : Firm (namedClass? negated) := by
  refine ⟨fun text answer rest read => ?_, fun text more => ?_⟩
  · rcases eq_append_cons_or_not_mem ':' text with ⟨name, after, rfl, closed⟩ | unclosed
    · rw [namedClass?_closed closed] at read
      split at read
      next rest =>
        rcases Option.map_eq_some_iff.mp read with ⟨_, -, ⟨⟩⟩
        exact (((List.suffix_cons ']' rest).trans (List.suffix_cons ':' _)).trans
          (List.suffix_append name _))
      next => cases read
    · cases (namedClass?_open unclosed negated).symm.trans read
  · rcases eq_append_cons_or_not_mem ':' text with ⟨name, after, rfl, closed⟩ | unclosed
    · rw [List.append_assoc, List.cons_append, namedClass?_closed closed, namedClass?_closed closed]
      rcases after with _ | ⟨bracket, rest⟩
      · rfl
      · by_cases closing : bracket = ']'
        · subst closing
          cases asciiClass? (String.ofList name) <;> rfl
        · simp [closing]
    · rw [namedClass?_open unclosed]
      rcases eq_append_cons_or_not_mem ':' more with ⟨name, after, rfl, closed⟩ | still
      · have apart : ':' ∉ text ++ ')' :: name := by simp [unclosed, closed]
        have regroup : text ++ ')' :: (name ++ ':' :: after) =
            (text ++ ')' :: name) ++ ':' :: after := by simp
        rw [regroup, namedClass?_closed apart, asciiClass?_parenthesis (by simp)]
        split <;> rfl
      · exact namedClass?_open (by simp [unclosed, still]) negated

theorem readAsciiClass?_other {text : List Char} (other : text.head? ≠ some ':') :
    readAsciiClass? text = none := by
  rcases text with _ | ⟨first, rest⟩
  · rfl
  · have different : first ≠ ':' := fun same => other (congrArg some same)
    simp [readAsciiClass?, different]

theorem readAsciiClass?_cases (text : List Char) :
    (∃ name negated, name <:+ text ∧ readAsciiClass? text = namedClass? negated name ∧
      ∀ more, readAsciiClass? (text ++ ')' :: more) = namedClass? negated (name ++ ')' :: more)) ∨
    readAsciiClass? text = none ∧ ∀ more, readAsciiClass? (text ++ ')' :: more) = none := by
  by_cases colon : text.head? = some ':'
  · rcases List.head?_eq_some_iff.mp colon with ⟨name, rfl⟩
    refine .inl ⟨(withoutCaret name).2, (withoutCaret name).1,
      (withoutCaret_suffix name).trans (List.suffix_cons ':' name), readAsciiClass?_colon name,
      fun more => ?_⟩
    rw [List.cons_append, readAsciiClass?_colon, withoutCaret_closing]
  · exact .inr ⟨readAsciiClass?_other colon, fun more =>
      readAsciiClass?_other (head?_closing_ne (by decide) colon more)⟩

theorem firm_readAsciiClass? : Firm readAsciiClass? where
  shrinks text answer rest read := by
    rcases readAsciiClass?_cases text with ⟨name, negated, suffix, here, -⟩ | ⟨here, -⟩
    · exact ((firm_namedClass? negated).shrinks _ _ _ (here.symm.trans read)).trans suffix
    · cases here.symm.trans read
  closing text more := by
    rcases readAsciiClass?_cases text with ⟨name, negated, -, here, closing⟩ | ⟨here, closing⟩
    · rw [closing, here, (firm_namedClass? negated).closing]
    · rw [closing, here]
      rfl

def Reader.orElse (first : Reader α) (next : α → Reader β) (other : Reader β) : Reader β :=
  fun text => match first text with
    | some (answer, rest) => next answer rest
    | none => other text

theorem Local.orElse {first : Reader α} (firm : Firm first) {next : α → Reader β} {other : Reader β}
    (local₁ : ∀ answer, Local (next answer)) (local₂ : Local other) :
    Local (first.orElse next other) where
  shrinks text answer rest read := by
    unfold Reader.orElse at read
    split at read
    next piece left found =>
      exact ((local₁ piece).shrinks _ _ _ read).trans (firm.shrinks _ _ _ found)
    next => exact local₂.shrinks _ _ _ read
  continues text := by
    unfold ContinuesAt Reader.orElse
    simp only [firm.closing]
    rcases first text with _ | ⟨answer, rest⟩
    · exact local₂.continues text
    · exact (local₁ answer).continues rest

/-! ## Beginnings -/

theorem rounds_takeHyphens (spaced : Bool) :
    Rounds fun rounds level text => some (takeHyphens spaced rounds level text) where
  ended rounds more _ := by cases rounds <;> cases more <;> rfl
  step rounds more level character rest same := by
    have next (level : OpenClass) := Option.some.inj
      (same level _ (length_advance_le spaced character rest))
    simp only [takeHyphens, next]

theorem local_takeHyphens (spaced : Bool) (rounds : Nat) (level : OpenClass) :
    Local fun text => some (takeHyphens spaced rounds level text) := by
  induction rounds generalizing level with
  | zero => exact .give level
  | succ rounds induction =>
      refine (Local.ifPrefix (by decide : ')' ∉ ['-'])
        ((induction (level.add hyphen)).afterBlanks spaced) (.give level)).congr fun text => ?_
      rcases text with _ | ⟨character, rest⟩
      · rfl
      · by_cases minus : character = '-'
        · subst minus
          rfl
        · simp [takeHyphens, Reader.ifPrefix_other minus, Reader.give, minus]

/-- The hyphens that a class begins with, and whether it is negated. -/
def leadingHyphens (spaced : Bool) (text : List Char) : OpenClass × List Char :=
  let (negated, text) := match text with
    | '^' :: _ => (true, advance spaced text)
    | _ => (false, text)
  takeHyphens spaced text.length ⟨negated, [], none⟩ text

/-- The beginning of a class from the text after its bracket, also where the text ends behind it. -/
def classStart (spaced : Bool) (text : List Char) : OpenClass × List Char :=
  let (level, rest) := leadingHyphens spaced (dropBlanks spaced false text)
  if level.items.isEmpty && rest.head? == some ']' then
    (level.add closingBracket, advance spaced rest)
  else (level, rest)

theorem openClass?_hyphens (spaced : Bool) (bracket : Char) (text : List Char) :
    openClass? spaced (bracket :: text) =
      let (level, rest) := leadingHyphens spaced (dropBlanks spaced false text)
      match rest with
      | [] => none
      | ']' :: _ =>
        if level.items.isEmpty then
          match advance spaced rest with
          | [] => none
          | rest => some (level.add closingBracket, rest)
        else some (level, rest)
      | _ => some (level, rest) := rfl

theorem openClass?_bind {spaced : Bool} (next : OpenClass → Reader β)
    (ends : ∀ level, next level [] = none) (bracket : Char) (text : List Char) :
    ((openClass? spaced (bracket :: text)).bind fun piece => next piece.1 piece.2) =
      next (classStart spaced text).1 (classStart spaced text).2 := by
  rw [openClass?_hyphens, classStart]
  rcases leadingHyphens spaced (dropBlanks spaced false text) with ⟨level, _ | ⟨character, rest⟩⟩
  · simp [ends]
  · by_cases bracket : character = ']'
    · subst bracket
      by_cases first : level.items.isEmpty = true
      · simp only [first]
        cases advance spaced (']' :: rest) <;> simp [ends]
      · simp [first]
    · simp [bracket]

theorem local_leadingHyphens (spaced : Bool) : Local fun text => some (leadingHyphens spaced text) := by
  have hyphens (negated : Bool) := Local.of_rounds (rounds_takeHyphens spaced)
    (local_takeHyphens spaced) 0 ⟨negated, [], none⟩
  refine (Local.ifPrefix (by decide : ')' ∉ ['^'])
    ((hyphens true).afterBlanks spaced) (hyphens false)).congr fun text => ?_
  rcases text with _ | ⟨character, rest⟩
  · rfl
  · by_cases caret : character = '^'
    · subst caret
      rfl
    · simp [leadingHyphens, Reader.ifPrefix_other caret, caret]

theorem local_classStart (spaced : Bool) : Local fun text => some (classStart spaced text) := by
  have opened (level : OpenClass) : Local fun text =>
      some (if level.items.isEmpty && text.head? == some ']' then
        (level.add closingBracket, advance spaced text) else (level, text)) := by
    cases level.items.isEmpty with
    | false => exact .give level
    | true =>
        refine (Local.ifPrefix (by decide : ')' ∉ [']'])
          ((Local.give (level.add closingBracket)).afterBlanks spaced) (.give level)).congr
            fun text => ?_
        rcases text with _ | ⟨character, rest⟩
        · rfl
        · by_cases bracket : character = ']'
          · subst bracket
            rfl
          · simp [Reader.ifPrefix_other bracket, Reader.give, bracket]
  exact ((local_leadingHyphens spaced).andThen opened).afterBlanks spaced

/-! ## Levels -/

def classStep (spaced : Bool) (next : OpenClass → List OpenClass → Reader Node) (level : OpenClass)
    (outer : List OpenClass) : Reader Node :=
  .ifPrefix ['['] (.orElse readAsciiClass? (fun item => next (level.add item) outer)
    (Reader.andThen (fun text => some (classStart spaced text))
      fun inner => next inner (level :: outer)))
  (.ifPrefix [']'] (match outer with
    | [] => .give (.bracketed level.negated level.content)
    | parent :: outer => next (parent.add (.bracketed level.negated level.content)) outer)
  (.ifPrefix ['&', '&'] (next (level.operate .intersection) outer)
  (.ifPrefix ['-', '-'] (next (level.operate .difference) outer)
  (.ifPrefix ['~', '~'] (next (level.operate .symmetricDifference) outer)
    (Reader.andThen (classRange? spaced) fun item => next (level.add item) outer)))))

theorem readClassLevels?_nil (spaced : Bool) (rounds : Nat) (level : OpenClass)
    (outer : List OpenClass) : readClassLevels? spaced rounds level outer [] = none := by
  cases rounds <;> rfl

theorem readClassLevels?_succ (spaced : Bool) (rounds : Nat) (level : OpenClass)
    (outer : List OpenClass) (text : List Char) :
    readClassLevels? spaced (rounds + 1) level outer text =
      classStep spaced (readClassLevels? spaced rounds) level outer (dropBlanks spaced false text) := by
  rw [readClassLevels?]
  generalize dropBlanks spaced false text = start
  dsimp only
  split
  · rfl
  next rest =>
    change _ = Reader.orElse readAsciiClass? _ _ rest
    unfold Reader.orElse
    rcases readAsciiClass? rest with _ | ⟨item, rest⟩
    · exact openClass?_bind (fun inner => readClassLevels? spaced rounds inner (level :: outer))
        (fun inner => readClassLevels?_nil spaced rounds inner _) '[' _
    · rfl
  · cases outer <;> rfl
  · rfl
  · rfl
  · rfl
  next empty open' close and minus tilde =>
    have unlike (front : List Char) (other : ∀ tail, start = front ++ tail → False) :=
      isPrefixOf_eq_false other
    simp only [classStep, Reader.ifPrefix, unlike ['['] open', unlike [']'] close,
      unlike ['&', '&'] and, unlike ['-', '-'] minus, unlike ['~', '~'] tilde]
    exact readClassRange?_bind (fun item => readClassLevels? spaced rounds (level.add item) outer)
      (fun item => readClassLevels?_nil spaced rounds _ outer) start

theorem local_classStep (spaced : Bool) {next : OpenClass → List OpenClass → Reader Node}
    (reads : ∀ level outer, Local (next level outer)) (level : OpenClass) (outer : List OpenClass) :
    Local (classStep spaced next level outer) := by
  have closed : Local (match outer with
      | [] => Reader.give (.bracketed level.negated level.content)
      | parent :: outer => next (parent.add (.bracketed level.negated level.content)) outer) := by
    cases outer with
    | nil => exact .give _
    | cons parent outer => exact reads _ _
  exact .ifPrefix (by decide) (.orElse firm_readAsciiClass? (fun _ => reads _ _)
      ((local_classStart spaced).andThen fun _ => reads _ _))
    (.ifPrefix (by decide) closed
    (.ifPrefix (by decide) (reads _ _)
    (.ifPrefix (by decide) (reads _ _)
    (.ifPrefix (by decide) (reads _ _)
      ((local_classRange spaced).andThen fun _ => reads _ _)))))

theorem local_readClassLevels? (spaced : Bool) (rounds : Nat) (level : OpenClass)
    (outer : List OpenClass) : Local (readClassLevels? spaced rounds level outer) := by
  induction rounds generalizing level outer with
  | zero => exact .fail
  | succ rounds induction =>
      exact ((local_classStep spaced induction level outer).afterBlanks spaced).congr fun text =>
        readClassLevels?_succ spaced rounds level outer text

theorem Reader.ifPrefix_congr {front : List Char} (any : front ≠ []) {first first' second second' : Reader α}
    {text : List Char} (same₁ : ∀ rest, rest.length < text.length → first rest = first' rest)
    (same₂ : second text = second' text) :
    Reader.ifPrefix front first second text = Reader.ifPrefix front first' second' text := by
  unfold Reader.ifPrefix
  split
  next taken =>
    rcases List.isPrefixOf_iff_prefix.mp taken with ⟨rest, rfl⟩
    have length := List.length_pos_iff.mpr any
    exact same₁ _ (by simp [length])
  next => exact same₂

theorem classStep_congr {spaced : Bool} {next other : OpenClass → List OpenClass → Reader Node}
    {text : List Char} (same : ∀ level outer rest, rest.length < text.length →
      next level outer rest = other level outer rest) (level : OpenClass) (outer : List OpenClass) :
    classStep spaced next level outer text = classStep spaced other level outer text := by
  refine Reader.ifPrefix_congr (by simp) (fun rest less => ?_)
    (Reader.ifPrefix_congr (by simp) (fun rest less => ?_)
    (Reader.ifPrefix_congr (by simp) (same _ _)
    (Reader.ifPrefix_congr (by simp) (same _ _)
    (Reader.ifPrefix_congr (by simp) (same _ _) ?_))))
  · unfold Reader.orElse
    rcases found : readAsciiClass? rest with _ | ⟨item, left⟩
    · have shorter : (classStart spaced rest).2.length ≤ rest.length :=
        ((local_classStart spaced).shrinks rest _ _ rfl).length_le
      exact same _ _ _ (Nat.lt_of_le_of_lt shorter less)
    · have shorter := (firm_readAsciiClass?.shrinks _ _ _ found).length_le
      exact same _ _ _ (by omega)
  · cases outer with
    | nil => rfl
    | cons parent outer => exact same _ _ _ less
  · unfold Reader.andThen
    rcases found : classRange? spaced text with _ | ⟨item, left⟩
    · rfl
    · exact same _ _ _ (classRange?_shrinks found)

theorem rounds_readClassLevels? (spaced : Bool) :
    Rounds fun rounds (levels : OpenClass × List OpenClass) =>
      readClassLevels? spaced rounds levels.1 levels.2 where
  ended rounds more levels := by rw [readClassLevels?_nil, readClassLevels?_nil]
  step rounds more levels character rest same := by
    have shorter := (dropBlanks_suffix spaced false (character :: rest)).length_le
    rw [List.length_cons] at shorter
    rw [readClassLevels?_succ, readClassLevels?_succ]
    exact classStep_congr (fun level outer left less => same (level, outer) left (by omega)) _ _

theorem local_readClass? (spaced : Bool) (bracket : Char) :
    Local fun text => readClass? spaced (bracket :: text) := by
  have levels (level : OpenClass) := Local.of_rounds (rounds_readClassLevels? spaced)
    (fun rounds levels => local_readClassLevels? spaced rounds levels.1 levels.2) 1 (level, [])
  exact ((local_classStart spaced).andThen levels).congr fun text =>
    openClass?_bind (fun level rest => readClassLevels? spaced (rest.length + 1) level [] rest)
      (fun level => readClassLevels?_nil spaced 1 level []) bracket text

end DocumentTypes.Pattern
