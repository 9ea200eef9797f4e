import DocumentTypes.Proofs.ClassReaders

/-! # Runs of a pattern

A pattern is read piece by piece. Put into a group, it is read with the same pieces up to the
parenthesis that closes the group, unless it ends in a comment that takes the parenthesis, or closes
the group itself. -/

namespace DocumentTypes.Pattern

/-! ## Tokens

A step reads a token, whatever groups are open, and then changes the reading by it, whatever the text
behind the token. -/

inductive Token
  | opening (opening : Opening)
  | closing
  | bar
  | node (node : Node)
  | repeated (least : Nat) (most : Option Nat)

/-- Read a token from its first character and the text after it. -/
def readToken? (spaced : Bool) (character : Char) : Reader Token :=
  match character with
  | '(' => Reader.andThen (readOpening? spaced) fun opening => .give (.opening opening)
  | ')' => .give .closing
  | '|' => .give .bar
  | '[' => Reader.andThen (fun text => readClass? spaced ('[' :: text)) fun node => .give (.node node)
  | '?' => Reader.andThen (fun text => some ((), dropLazyMark text)) fun _ => .give (.repeated 0 (some 1))
  | '*' => Reader.andThen (fun text => some ((), dropLazyMark text)) fun _ => .give (.repeated 0 none)
  | '+' => Reader.andThen (fun text => some ((), dropLazyMark text)) fun _ => .give (.repeated 1 none)
  | '\x7b' => (countBounds? spaced).andThen fun bounds => .give (.repeated bounds.1 bounds.2)
  | '\\' => Reader.andThen (readEscape? spaced) fun node => .give (.node node)
  | '.' => .give (.node .dot)
  | '^' => .give (.node (.boundary .lineStart))
  | '$' => .give (.node (.boundary .lineEnd))
  | character => .give (.node (.literal ⟨character, false⟩))

namespace Reading

def take? (reading : Reading) : Token → Option Reading
  | .opening (.switches changes) => some { reading with
      level := reading.level.add (.flags changes)
      spaced := ignoresBlanks changes reading.spaced }
  | .opening (.capturing name) =>
    if name.any reading.names.contains then none
    else some { reading with
      level := .start
      groups := ⟨true, [], reading.spaced, reading.level⟩ :: reading.groups
      names := name.toList ++ reading.names }
  | .opening (.plain changes) => some { reading with
      level := .start
      groups := ⟨false, changes, reading.spaced, reading.level⟩ :: reading.groups
      spaced := ignoresBlanks changes reading.spaced }
  | .closing =>
    match reading.groups with
    | [] => none
    | group :: groups => some { reading with
        level := group.before.add (.group group.captures group.changes reading.level.close)
        groups
        spaced := group.spaced }
  | .bar => some { reading with level := reading.level.alternate }
  | .node node => some { reading with level := reading.level.add node }
  | .repeated least most =>
    (reading.level.repeatLast? least most).map fun level => { reading with level }

theorem step?_cons (reading : Reading) (character : Char) (text : List Char) :
    reading.step? (character :: text) = (readToken? reading.spaced character text).bind fun piece =>
      (reading.take? piece.1).map fun reading => (reading, piece.2) := by
  unfold readToken?
  split
  · simp only [step?, Reader.andThen, Reader.give]
    rcases readOpening? reading.spaced text with _ | ⟨changes | name | changes, rest⟩
    · rfl
    · rfl
    · by_cases known : name.any reading.names.contains = true <;> simp [take?, known]
    · rfl
  · rcases reading with ⟨level, _ | ⟨group, groups⟩, names, spaced⟩ <;> rfl
  · rfl
  · simp only [step?, Reader.andThen, Reader.give]
    cases readClass? reading.spaced ('[' :: text) <;> rfl
  · cases found : reading.level.repeatLast? 0 (some 1) <;>
      simp [step?, take?, Reader.andThen, Reader.give, found]
  · cases found : reading.level.repeatLast? 0 none <;>
      simp [step?, take?, Reader.andThen, Reader.give, found]
  · cases found : reading.level.repeatLast? 1 none <;>
      simp [step?, take?, Reader.andThen, Reader.give, found]
  · simp only [step?, countBounds?, Reader.andThen, Reader.give, take?]
    rcases readCounts? reading.spaced ('\x7b' :: text) with _ | ⟨least, most, rest⟩
    · rfl
    · simp [Function.comp_def]
  · simp only [step?, Reader.andThen, Reader.give]
    cases readEscape? reading.spaced text <;> rfl
  · rfl
  · rfl
  · rfl
  · simp [step?, take?, Reader.give]

end Reading

theorem local_readToken? (spaced : Bool) {character : Char} (plain : character ≠ '\\') :
    Local (readToken? spaced character) := by
  unfold readToken?
  split
  · exact (local_readOpening? spaced).map _
  · exact .give _
  · exact .give _
  · exact (local_readClass? spaced '[').map _
  · exact local_dropLazyMark.map _
  · exact local_dropLazyMark.map _
  · exact local_dropLazyMark.map _
  · exact (local_countBounds? spaced).map _
  · exact absurd rfl plain
  all_goals exact .give _

theorem shrinks_readToken? (spaced : Bool) (character : Char) : Shrinks (readToken? spaced character) := by
  by_cases slash : character = '\\'
  · subst slash
    intro text token rest read
    rcases Option.bind_eq_some_iff.mp read with ⟨⟨node, after⟩, found, ⟨⟩⟩
    exact readEscape?_shrinks spaced _ _ _ found
  · exact (local_readToken? spaced slash).shrinks

theorem readToken?_continues (spaced : Bool) (character : Char) (text : List Char) :
    ContinuesAt (readToken? spaced character) text ∨
      character = '\\' ∧ StrandsAt spaced (readToken? spaced character) text := by
  by_cases slash : character = '\\'
  · subst slash
    rcases readEscape?_continues spaced text with goesOn | ⟨front, counts, whole, unread, nothing, left⟩
    · exact .inl (goesOn.andThen (fun node => (Local.give (Token.node node)).shrinks)
        fun node rest _ => (Local.give (Token.node node)).continues rest)
    · refine .inr ⟨rfl, front, counts, whole, unread, ?_, fun more token rest read => ?_⟩
      · simp only [readToken?, Reader.andThen, nothing, Option.bind_none]
      · rcases Option.bind_eq_some_iff.mp read with ⟨⟨node, after⟩, found, ⟨⟩⟩
        exact left more node after found
  · exact .inl ((local_readToken? spaced slash).continues text)

theorem readToken?_closing {spaced : Bool} {character : Char} {text rest : List Char}
    (read : readToken? spaced character text = some (.closing, rest)) : character = ')' := by
  unfold readToken? at read
  split at read
  case h_2 => rfl
  all_goals
    first
    | cases read
    | rcases Option.bind_eq_some_iff.mp read with ⟨_, -, ⟨⟩⟩

/-! ## Groups around a pattern -/

namespace Reading

def inside (outer : OpenGroup) (reading : Reading) : Reading :=
  { reading with groups := reading.groups ++ [outer] }

theorem take?_inside (outer : OpenGroup) (reading : Reading) {token : Token}
    (held : token = .closing → reading.groups ≠ []) :
    (reading.inside outer).take? token = (reading.take? token).map (inside outer) := by
  rcases token with (changes | name | changes) | _ | _ | node | ⟨least, most⟩
  · rfl
  · by_cases known : name.any reading.names.contains = true <;> simp [take?, inside, known]
  · rfl
  · rcases reading with ⟨level, _ | ⟨group, groups⟩, names, spaced⟩
    · exact absurd rfl (held rfl)
    · rfl
  · rfl
  · rfl
  · simp only [take?, inside]
    cases reading.level.repeatLast? least most <;> rfl

theorem take?_groups {reading after : Reading} {token : Token} (taken : reading.take? token = some after)
    (stays : token ≠ .closing) : reading.groups <:+ after.groups := by
  rcases token with (changes | name | changes) | _ | _ | node | ⟨least, most⟩
  · cases taken
    exact List.suffix_refl _
  · simp only [take?] at taken
    split at taken <;> cases taken
    exact List.suffix_cons _ _
  · cases taken
    exact List.suffix_cons _ _
  · exact absurd rfl stays
  · cases taken
    exact List.suffix_refl _
  · cases taken
    exact List.suffix_refl _
  · rcases Option.map_eq_some_iff.mp taken with ⟨level, -, rfl⟩
    exact List.suffix_refl _

/-! ## Runs -/

theorem step?_shrinks {reading after : Reading} {text rest : List Char}
    (read : reading.step? text = some (after, rest)) : rest.length < text.length := by
  rcases text with _ | ⟨character, text⟩
  · cases read
  · rw [step?_cons] at read
    rcases Option.bind_eq_some_iff.mp read with ⟨⟨token, left⟩, found, taken⟩
    rcases Option.map_eq_some_iff.mp taken with ⟨_, -, ⟨⟩⟩
    exact Nat.lt_succ_of_le (shrinks_readToken? _ _ _ _ _ found).length_le

theorem run?_nil {reading : Reading} {text : List Char}
    (ended : dropBlanks reading.spaced false text = []) (rounds : Nat) :
    reading.run? (rounds + 1) text =
      if reading.groups.isEmpty then some reading.level.close else none := by
  rw [run?, ended]

theorem run?_cons {reading : Reading} {text rest : List Char} {character : Char}
    (start : dropBlanks reading.spaced false text = character :: rest) (rounds : Nat) :
    reading.run? (rounds + 1) text =
      (reading.step? (character :: rest)).bind fun piece => piece.1.run? rounds piece.2 := by
  rw [run?, start]
  rfl

theorem rounds_run? : Rounds fun rounds (reading : Reading) => reading.run? (rounds + 1) where
  ended rounds more reading := by rw [run?_nil rfl, run?_nil rfl]
  step rounds more reading character rest same := by
    have shorter := (dropBlanks_suffix reading.spaced false (character :: rest)).length_le
    rw [List.length_cons] at shorter
    rcases start : dropBlanks reading.spaced false (character :: rest) with _ | ⟨first, others⟩
    · rw [run?_nil start, run?_nil start]
    · rw [run?_cons start, run?_cons start]
      rw [start] at shorter
      rcases step : reading.step? (first :: others) with _ | ⟨after, left⟩
      · rfl
      · have less := step?_shrinks step
        exact same after left (by omega)

def finish? (reading : Reading) (text : List Char) : Option Node :=
  reading.run? (text.length + 1) text

theorem finish?_nil {reading : Reading} {text : List Char}
    (ended : dropBlanks reading.spaced false text = []) : reading.finish? text =
      if reading.groups.isEmpty then some reading.level.close else none :=
  run?_nil ended text.length

theorem finish?_cons {reading : Reading} {text rest : List Char} {character : Char}
    (start : dropBlanks reading.spaced false text = character :: rest) :
    reading.finish? text = (readToken? reading.spaced character rest).bind fun piece =>
      (reading.take? piece.1).bind fun after => after.finish? piece.2 := by
  have shorter := (dropBlanks_suffix reading.spaced false text).length_le
  rw [start, List.length_cons] at shorter
  rw [finish?, run?_cons start, step?_cons]
  rcases read : readToken? reading.spaced character rest with _ | ⟨token, left⟩
  · rfl
  rcases taken : reading.take? token with _ | after
  · simp [taken]
  have less := (shrinks_readToken? _ _ _ _ _ read).length_le
  obtain ⟨rounds, size⟩ := Nat.exists_eq_add_of_lt (Nat.lt_of_lt_of_le rest.length.succ_pos shorter)
  simp only [Option.bind_some, taken, Option.map_some, size]
  exact rounds_run?.enough after (by omega) (Nat.le_refl _)

/-- Induction along a run: it ends where nothing but blanks is left, and every piece leaves less of the
text. -/
theorem run_induction {motive : Reading → List Char → Prop}
    (ended : ∀ reading text, dropBlanks reading.spaced false text = [] → motive reading text)
    (piece : ∀ reading text character rest,
      dropBlanks reading.spaced false text = character :: rest →
      (∀ token left after, readToken? reading.spaced character rest = some (token, left) →
        reading.take? token = some after → motive after left) → motive reading text)
    (reading : Reading) (text : List Char) : motive reading text := by
  induction size : text.length using Nat.strong_induction_on generalizing reading text with
  | _ size induction =>
    subst size
    rcases start : dropBlanks reading.spaced false text with _ | ⟨character, rest⟩
    · exact ended reading text start
    · have shorter := (dropBlanks_suffix reading.spaced false text).length_le
      rw [start, List.length_cons] at shorter
      refine piece reading text character rest start fun token left after read _ => ?_
      have less := (shrinks_readToken? _ _ _ _ _ read).length_le
      exact induction left.length (by omega) after left rfl

theorem finish?_unclosed (reading : Reading) (text : List Char) (held : reading.groups ≠ [])
    (free : ')' ∉ dropBlanks reading.spaced false text) : reading.finish? text = none := by
  induction reading, text using run_induction with
  | ended reading text start => rw [finish?_nil start, if_neg (by simpa using held)]
  | piece reading text character rest start induction =>
      rw [start] at free
      rw [finish?_cons start]
      rcases read : readToken? reading.spaced character rest with _ | ⟨token, left⟩
      · rfl
      rcases taken : reading.take? token with _ | after
      · simp [taken]
      have stays : token ≠ .closing := by
        rintro rfl
        exact free (List.mem_cons.mpr (.inl (readToken?_closing read).symm))
      have still : after.groups ≠ [] := fun none =>
        held (List.suffix_nil.mp (none ▸ take?_groups taken stays))
      have within := (dropBlanks_suffix after.spaced false left).trans
        ((shrinks_readToken? _ _ _ _ _ read).trans (List.suffix_cons character rest))
      simp only [Option.bind_some, taken]
      exact induction token left after read taken still fun member => free (within.subset member)

theorem finish?_inside {reading : Reading} {text rest : List Char} {character : Char}
    (outer : OpenGroup) (start : dropBlanks reading.spaced false text = character :: rest)
    (held : character = ')' → reading.groups ≠ []) : (reading.inside outer).finish? text =
      (readToken? reading.spaced character rest).bind fun piece =>
        (reading.take? piece.1).bind fun after => (after.inside outer).finish? piece.2 := by
  have inner : dropBlanks (reading.inside outer).spaced false text = character :: rest := start
  rw [finish?_cons inner]
  change (readToken? reading.spaced character rest).bind _ = _
  rcases read : readToken? reading.spaced character rest with _ | ⟨token, left⟩
  · rfl
  have stays : token = .closing → reading.groups ≠ [] := by
    rintro rfl
    exact held (readToken?_closing read)
  simp only [Option.bind_some, take?_inside outer reading stays, Option.bind_map]
  rfl

theorem dropBlanks_read {spaced : Bool} {text rest : List Char} {character : Char}
    (start : dropBlanks spaced false text = character :: rest) (more : List Char) :
    dropBlanks spaced false (text ++ ')' :: more) = character :: (rest ++ ')' :: more) := by
  rcases continuesAt_dropBlanks spaced false text with ⟨_, left, found, goesOn⟩ | ⟨-, ⟨⟨⟩⟩ | ⟨_, found, -⟩⟩
  · cases (Prod.mk.inj (Option.some.inj found)).2.symm.trans start
    exact (Prod.mk.inj (Option.some.inj (goesOn more))).2
  · cases (Prod.mk.inj (Option.some.inj found)).2.symm.trans start

/-! ## Patterns in a group of their own -/

/-- The group around a pattern that is anchored at both ends. -/
def wrapping : OpenGroup := ⟨false, [], false, ⟨[], [.boundary .lineStart]⟩⟩

def wrapped (node : Node) : Node :=
  .concatenation [.boundary .lineStart, .group false [] node, .boundary .lineEnd]

theorem finish?_closing {reading : Reading} {text more : List Char}
    (start : dropBlanks reading.spaced false text = ')' :: more) : reading.finish? text =
      (reading.take? .closing).bind fun after => after.finish? more :=
  finish?_cons start

theorem finish?_wrapped_nil {reading : Reading} {text : List Char} (complete : reading.groups = [])
    (ended : dropBlanks reading.spaced false text = []) :
    (reading.finish? (text ++ [')']) = none ∧
      (reading.inside wrapping).finish? (text ++ [')', '$']) = some (wrapped reading.level.close)) ∨
    (reading.finish? (text ++ [')']) = some reading.level.close ∧
      (reading.inside wrapping).finish? (text ++ [')', '$']) = none) := by
  rcases reading with ⟨level, groups, names, spaced⟩
  subst complete
  rcases continuesAt_dropBlanks spaced false text with ⟨_, rest, found, goesOn⟩ | ⟨-, ⟨⟨⟩⟩ | ⟨_, found, line⟩⟩
  · cases (Prod.mk.inj (Option.some.inj found)).2.symm.trans ended
    have closes (more : List Char) : dropBlanks spaced false (text ++ ')' :: more) = ')' :: more :=
      (Prod.mk.inj (Option.some.inj (goesOn more))).2
    refine .inl ⟨?_, ?_⟩
    · rw [finish?_closing (closes [])]
      rfl
    · have inner : dropBlanks (inside wrapping ⟨level, [], names, spaced⟩).spaced false
          (text ++ [')', '$']) = ')' :: ['$'] := closes ['$']
      rw [finish?_closing inner]
      rfl
  · have beyond (more : List Char) (free : '\n' ∉ more) : dropBlanks spaced false (text ++ ')' :: more) = [] :=
      ((Prod.mk.inj (Option.some.inj ((line more free).trans found))).2)
    refine .inr ⟨?_, ?_⟩
    · rw [finish?_nil (beyond [] (by simp))]
      rfl
    · have inner : dropBlanks (inside wrapping ⟨level, [], names, spaced⟩).spaced false
          (text ++ [')', '$']) = [] := beyond ['$'] (by decide)
      rw [finish?_nil inner]
      rfl

/-- A pattern that is complete can be wrapped, unless it takes the closing parenthesis for a part of a
comment. -/
theorem finish?_wrapped {reading : Reading} {text : List Char} {node : Node}
    (found : reading.finish? text = some node) :
    (reading.finish? (text ++ [')']) = none ∧
      (reading.inside wrapping).finish? (text ++ [')', '$']) = some (wrapped node)) ∨
    (reading.finish? (text ++ [')']) = some node ∧
      (reading.inside wrapping).finish? (text ++ [')', '$']) = none) := by
  induction reading, text using run_induction with
  | ended reading text start =>
      rw [finish?_nil start] at found
      rcases Option.ite_none_right_eq_some.mp found with ⟨complete, ⟨⟩⟩
      exact finish?_wrapped_nil (List.isEmpty_iff.mp complete) start
  | piece reading text character rest start induction =>
      rw [finish?_cons start] at found
      rcases Option.bind_eq_some_iff.mp found with ⟨⟨token, left⟩, read, found⟩
      rcases Option.bind_eq_some_iff.mp found with ⟨after, taken, found⟩
      have held : character = ')' → reading.groups ≠ [] := by
        rintro rfl none
        cases read
        simp [take?, none] at taken
      rw [finish?_cons (dropBlanks_read start []), finish?_inside wrapping (dropBlanks_read start ['$']) held]
      rcases readToken?_continues reading.spaced character rest with
        (⟨token', left', read', goesOn⟩ | ⟨-, comment⟩) | ⟨-, -, -, -, -, nothing, -⟩
      · cases read.symm.trans read'
        simp only [goesOn, Option.bind_some, taken]
        exact induction token left after read taken found
      · rcases comment with nothing | ⟨token', read', line⟩
        · cases nothing.symm.trans read
        · cases read.symm.trans read'
          simp only [line [] (by simp), line ['$'] (by decide), read, Option.bind_some, taken]
          refine .inr ⟨found, ?_⟩
          exact finish?_unclosed _ [] (by simp [inside]) List.not_mem_nil
      · cases nothing.symm.trans read

theorem spaced_of_escape {reading after : Reading} {spaced : Bool} {text rest : List Char}
    {token : Token} (read : readToken? spaced '\\' text = some (token, rest))
    (taken : reading.take? token = some after) : after.spaced = reading.spaced := by
  rcases Option.bind_eq_some_iff.mp read with ⟨⟨node, _⟩, -, ⟨⟩⟩
  cases taken
  rfl

theorem finish?_stranded {reading : Reading} {counts : List Char}
    (closing : dropBlanks reading.spaced false counts = [] ∨
      ∃ more, dropBlanks reading.spaced false counts = ')' :: more) :
    reading.finish? ('\x7b' :: counts) = none := by
  have start : dropBlanks reading.spaced false ('\x7b' :: counts) = '\x7b' :: counts := by
    cases reading.spaced <;> rfl
  rw [finish?_cons start]
  simp [readToken?, Reader.andThen, countBounds?_closing closing]

theorem finish?_front {reading after : Reading} {text rest left more : List Char} {character : Char}
    {token : Token} {node : Node}
    (start : dropBlanks reading.spaced false text = character :: rest)
    (read : readToken? reading.spaced character rest = some (token, left ++ ')' :: more))
    (taken : reading.take? token = some after) (found : after.finish? left = some node) :
    ∃ front, text = front ++ ')' :: more ∧ reading.finish? front = some node := by
  rcases dropBlanks_front start with ⟨blanks, rfl, -, starts⟩
  rcases shrinks_readToken? _ _ _ _ _ read with ⟨used, rfl⟩
  rw [← List.append_assoc] at read
  refine ⟨blanks ++ character :: (used ++ left), by simp, ?_⟩
  rw [finish?_cons (starts (used ++ left))]
  rcases readToken?_continues reading.spaced character (used ++ left) with
    (⟨token', left', read', goesOn⟩ | ⟨past, -⟩) | ⟨rfl, front, counts, -, unread, -, leaves⟩
  · have same := read.symm.trans (goesOn more)
    rw [Option.some.injEq, Prod.mk.injEq] at same
    rcases same with ⟨rfl, same⟩
    cases List.append_cancel_right same
    simp only [read', Option.bind_some, taken, found]
  · have suffix := (past more token _ read).length_le
    simp at suffix
    omega
  · rcases leaves more _ _ read with same | suffix
    · cases List.append_cancel_right same
      rw [← spaced_of_escape read taken] at unread
      cases (finish?_stranded (.inl unread)).symm.trans found
    · have := suffix.length_le
      simp at this
      omega

theorem finish?_lineEnd {reading : Reading} {text : List Char} (held : reading.groups ≠ [])
    (last : dropBlanks reading.spaced false text <:+ ['$']) : reading.finish? text = none :=
  finish?_unclosed reading text held fun member => absurd (last.subset member) (by decide)

theorem finish?_inside_nil {reading : Reading} {text : List Char} (held : reading.groups ≠ [])
    (ended : dropBlanks reading.spaced false text = []) :
    (reading.inside wrapping).finish? (text ++ [')', '$']) = none := by
  rcases dropBlanks_unread ended ['$'] with closes | ⟨past, -⟩
  · rcases reading with ⟨level, _ | ⟨group, groups⟩, names, spaced⟩
    · exact absurd rfl held
    · have inner : dropBlanks (inside wrapping ⟨level, group :: groups, names, spaced⟩).spaced false
          (text ++ [')', '$']) = ')' :: ['$'] := closes
      rw [finish?_closing inner]
      exact finish?_lineEnd (by simp) (dropBlanks_suffix _ _ _)
  · exact finish?_lineEnd (by simp [inside]) past

theorem finish?_inside_stranded {reading : Reading} {counts : List Char}
    (unread : dropBlanks reading.spaced false counts = []) :
    (reading.inside wrapping).finish? ('\x7b' :: counts ++ [')', '$']) = none := by
  refine finish?_stranded ?_
  rcases dropBlanks_unread unread ['$'] with closes | ⟨-, beyond⟩
  · exact .inr ⟨['$'], closes⟩
  · exact .inl (beyond (by decide))

/-- A pattern that can be wrapped is complete by itself, or up to a closing parenthesis in it. -/
theorem finish?_of_wrapped {reading : Reading} {text : List Char} {full : Node}
    (found : (reading.inside wrapping).finish? (text ++ [')', '$']) = some full) :
    (∃ node, reading.finish? text = some node) ∨
      ∃ front more node, text = front ++ ')' :: more ∧ reading.finish? front = some node := by
  induction reading, text using run_induction with
  | ended reading text start =>
      by_cases complete : reading.groups = []
      · exact .inl ⟨reading.level.close, by simp [finish?_nil start, complete]⟩
      · exact absurd found (by simp [finish?_inside_nil complete start])
  | piece reading text character rest start induction =>
      by_cases closes : character = ')' ∧ reading.groups = []
      · rcases closes with ⟨rfl, complete⟩
        rcases dropBlanks_front start with ⟨front, rfl, ended, -⟩
        exact .inr ⟨front, rest, reading.level.close, rfl, by simp [finish?_nil ended, complete]⟩
      rw [finish?_inside wrapping (dropBlanks_read start ['$']) fun same none => closes ⟨same, none⟩] at found
      rcases Option.bind_eq_some_iff.mp found with ⟨⟨token, left⟩, read, goesOn⟩
      rcases Option.bind_eq_some_iff.mp goesOn with ⟨after, taken, finished⟩
      dsimp only at taken finished
      have held : (after.inside wrapping).groups ≠ [] := by simp [inside]
      rcases readToken?_continues reading.spaced character rest with
        (⟨token', left', read', same⟩ | ⟨past, -⟩) | ⟨rfl, front, counts, -, unread, -, leaves⟩
      · cases read.symm.trans (same ['$'])
        rcases induction token left' after read' taken finished with ⟨node, ended⟩ | ⟨front, more, node, rfl, ended⟩
        · exact .inl ⟨node, by simp only [finish?_cons start, read', Option.bind_some, taken, ended]⟩
        · rcases finish?_front start read' taken ended with ⟨front, rfl, ended⟩
          exact .inr ⟨front, more, node, rfl, ended⟩
      · have last := past ['$'] token left read
        cases (finish?_lineEnd held ((dropBlanks_suffix _ _ _).trans last)).symm.trans finished
      · rcases leaves ['$'] _ _ read with rfl | last
        · rw [← spaced_of_escape read taken] at unread
          cases (finish?_inside_stranded unread).symm.trans finished
        · cases (finish?_lineEnd held ((dropBlanks_suffix _ _ _).trans last)).symm.trans finished

end Reading

end DocumentTypes.Pattern
