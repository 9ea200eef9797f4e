import DocumentTypes.Constraint
import DocumentTypes.Proofs.Matches
import DocumentTypes.Proofs.PatternRuns

/-! # Full patterns

A pattern is matched in full by reading it between anchors, inside a group of its own. For a pattern
that is an expression by itself this is the same expression, anchored at both ends of the text, unless
the pattern ends in a comment: the comment takes the closing parenthesis of the group. A pattern that
is no expression by itself is refused, unless it closes the group that it was put into. -/

namespace DocumentTypes

namespace Pattern

/-! ## Anchored expressions -/

/-- An expression in a group of its own between the two ends of the text. -/
def Regular.anchored (expression : Regular) : Regular :=
  .sequence (.place .textStart) (.sequence (.group false expression)
    (.sequence (.place .textEnd) .empty))

theorem charBefore?_isNone {text : List Char} {place : Nat} (inside : place ≤ text.length) :
    (charBefore? text place).isNone = true ↔ place = 0 := by
  cases place with
  | zero => simp [charBefore?]
  | succ place => simp [charBefore?, Nat.lt_of_succ_le inside]

theorem Regular.matches_anchored {expression : Regular} {text : List Char} {start stop : Nat}
    (inside : start ≤ text.length) : expression.anchored.Matches text start stop ↔
      start = 0 ∧ stop = text.length ∧ expression.Matches text 0 text.length := by
  constructor
  · rintro ⟨_, ⟨rfl, first⟩, middle, here, _, ⟨rfl, last⟩, rfl⟩
    cases (charBefore?_isNone inside).mp first
    have bounds := Matches.bounded inside here
    have ended : text.length ≤ stop := by simpa [Place.holds] using last
    cases Nat.le_antisymm ended bounds.2
    exact ⟨rfl, rfl, here⟩
  · rintro ⟨rfl, rfl, here⟩
    exact ⟨0, ⟨rfl, rfl⟩, text.length, here, text.length, ⟨rfl, by simp [Place.holds]⟩, rfl⟩

/-- An anchored expression occurs in a text just if the expression matches the text in full. -/
theorem Regular.occursIn_anchored (expression : Regular) (text : String) :
    expression.anchored.occursIn text = true ↔ expression.MatchesWhole text := by
  rw [occursIn_iff]
  constructor
  · rintro ⟨start, stop, inside, here⟩
    exact ((matches_anchored inside).mp here).2.2
  · intro whole
    exact ⟨0, text.toList.length, Nat.zero_le _, (matches_anchored (Nat.zero_le _)).mpr ⟨rfl, rfl, whole⟩⟩

/-! ## Anchored patterns -/

def Reading.initial : Reading := ⟨.start, [], [], false⟩

theorem Node.ofText?_eq (text : String) : Node.ofText? text =
    (Reading.initial.finish? text.toList).bind fun node =>
      if node.depth ≤ depthLimit then some node else none := rfl

theorem finish?_anchored (text : List Char) :
    Reading.initial.finish? ('^' :: '(' :: '?' :: ':' :: text) =
      (Reading.initial.inside Reading.wrapping).finish? text := by
  have anchor := Reading.finish?_cons
    (rfl : dropBlanks Reading.initial.spaced false ('^' :: '(' :: '?' :: ':' :: text) = _)
  have group := Reading.finish?_cons
    (rfl : dropBlanks (Reading.mk ⟨[], [.boundary .lineStart]⟩ [] [] false).spaced false
      ('(' :: '?' :: ':' :: text) = _)
  exact anchor.trans group

theorem toList_anchored (pattern : String) : (DocumentTypes.anchored pattern).toList =
    '^' :: '(' :: '?' :: ':' :: (pattern.toList ++ [')', '$']) := by
  simp [DocumentTypes.anchored]

theorem ofText?_anchored (pattern : String) : Node.ofText? (DocumentTypes.anchored pattern) =
    ((Reading.initial.inside Reading.wrapping).finish? (pattern.toList ++ [')', '$'])).bind fun node =>
      if node.depth ≤ depthLimit then some node else none := by
  rw [Node.ofText?_eq, toList_anchored, finish?_anchored]

theorem depth_wrapped (node : Node) : (Reading.wrapped node).depth = node.depth + 2 := by
  simp [Reading.wrapped, Node.depth, Node.depths]

theorem meaning?_wrapped (node : Node) : (Reading.wrapped node).meaning? .initial =
    (node.meaning? .initial).map fun meaning => (meaning.1.anchored, .initial) := by
  have unchanged : Settings.initial.change [] = .initial := rfl
  simp only [Reading.wrapped, Node.meaning?, Node.sequenceMeaning?, unchanged, Option.bind_eq_bind,
    Option.bind_some]
  cases node.meaning? .initial <;> rfl

/-! ## Patterns by themselves -/

/-- The expression that a pattern denotes by itself, whatever its size. -/
def Denotes (pattern : String) (expression : Regular) : Prop :=
  ∃ node after, Node.ofText? pattern = some node ∧ node.meaning? .initial = some (expression, after)

/-- A text that is read to its end with no group left open, however deeply it nests. -/
def Complete (text : List Char) : Prop := ∃ node, Reading.initial.finish? text = some node

/-- A pattern that takes a parenthesis behind it for a part of a comment. -/
def EndsInComment (pattern : String) : Prop := Complete (pattern.toList ++ [')'])

/-- A pattern with a parenthesis that closes a group which it has not opened: what stands before the
parenthesis is complete. -/
def LeavesGroup (pattern : String) : Prop :=
  ∃ front more, pattern.toList = front ++ ')' :: more ∧ Complete front

/-- The limits of depth and size leave room for the anchors and the group around a pattern. -/
structure FitsAnchored (pattern : String) (expression : Regular) : Prop where
  depth : ∀ node, Node.ofText? pattern = some node → node.depth + 2 ≤ depthLimit
  size : expression.anchored.fits = true

variable {pattern : String} {expression : Regular} {node : Node}

theorem Node.ofText?_eq_some_iff : Node.ofText? pattern = some node ↔
    Reading.initial.finish? pattern.toList = some node ∧ node.depth ≤ depthLimit := by
  rw [Node.ofText?_eq, Option.bind_eq_some_iff]
  constructor
  · rintro ⟨other, found, fits⟩
    rcases Option.ite_none_right_eq_some.mp fits with ⟨shallow, ⟨⟩⟩
    exact ⟨found, shallow⟩
  · rintro ⟨found, shallow⟩
    exact ⟨node, found, if_pos shallow⟩

theorem Regular.ofText?_eq_some_iff : Regular.ofText? pattern = some expression ↔
    Denotes pattern expression ∧ expression.fits = true := by
  unfold Regular.ofText? Denotes
  simp only [Option.bind_eq_bind, Option.bind_eq_some_iff]
  constructor
  · rintro ⟨node, read, ⟨meaning, after⟩, means, fits⟩
    rcases Option.ite_none_right_eq_some.mp fits with ⟨small, ⟨⟩⟩
    exact ⟨⟨node, after, read, means⟩, small⟩
  · rintro ⟨⟨node, after, read, means⟩, small⟩
    exact ⟨node, read, (expression, after), means, if_pos small⟩

/-! ## Patterns between anchors -/

theorem ofText?_anchored_complete (found : Reading.initial.finish? pattern.toList = some node)
    (ends : ¬EndsInComment pattern) : Node.ofText? (DocumentTypes.anchored pattern) =
      if node.depth + 2 ≤ depthLimit then some (Reading.wrapped node) else none := by
  rcases Reading.finish?_wrapped found with ⟨-, full⟩ | ⟨comment, -⟩
  · rw [ofText?_anchored, full, Option.bind_some, depth_wrapped]
  · exact absurd ⟨node, comment⟩ ends

theorem ofText?_anchored_comment (found : Reading.initial.finish? pattern.toList = some node)
    (ends : EndsInComment pattern) : Node.ofText? (DocumentTypes.anchored pattern) = none := by
  rcases Reading.finish?_wrapped found with ⟨closed, -⟩ | ⟨-, open'⟩
  · rcases ends with ⟨other, comment⟩
    cases closed.symm.trans comment
  · rw [ofText?_anchored, open', Option.bind_none]

theorem denotes_anchored (denotes : Denotes pattern expression) (ends : ¬EndsInComment pattern)
    (depth : ∀ node, Node.ofText? pattern = some node → node.depth + 2 ≤ depthLimit) :
    Denotes (DocumentTypes.anchored pattern) expression.anchored := by
  rcases denotes with ⟨node, after, read, means⟩
  refine ⟨Reading.wrapped node, .initial, ?_, by rw [meaning?_wrapped, means]; rfl⟩
  rw [ofText?_anchored_complete (Node.ofText?_eq_some_iff.mp read).1 ends, if_pos (depth node read)]

theorem denotes_of_anchored {full : Regular} (complete : Complete pattern.toList)
    (denotes : Denotes (DocumentTypes.anchored pattern) full) :
    ∃ expression, Denotes pattern expression ∧ ¬EndsInComment pattern ∧ full = expression.anchored ∧
      ∀ node, Node.ofText? pattern = some node → node.depth + 2 ≤ depthLimit := by
  rcases complete with ⟨node, complete⟩
  rcases denotes with ⟨fullNode, after, read, means⟩
  have ends : ¬EndsInComment pattern := fun ends => by
    rw [ofText?_anchored_comment complete ends] at read
    cases read
  rw [ofText?_anchored_complete complete ends] at read
  rcases Option.ite_none_right_eq_some.mp read with ⟨shallow, ⟨⟩⟩
  rw [meaning?_wrapped] at means
  rcases Option.map_eq_some_iff.mp means with ⟨⟨expression, after⟩, meaning, ⟨⟩⟩
  have here := Node.ofText?_eq_some_iff.mpr ⟨complete, by omega⟩
  refine ⟨expression, ⟨node, after, here, meaning⟩, ends, rfl, fun other read => ?_⟩
  cases here.symm.trans read
  exact shallow

theorem complete_of_anchored {full : Regular} (denotes : Denotes (DocumentTypes.anchored pattern) full) :
    Complete pattern.toList ∨ LeavesGroup pattern := by
  rcases denotes with ⟨fullNode, after, read, -⟩
  rw [ofText?_anchored] at read
  rcases Option.bind_eq_some_iff.mp read with ⟨_, found, -⟩
  rcases Reading.finish?_of_wrapped found with complete | ⟨front, more, node, split, complete⟩
  · exact .inl complete
  · exact .inr ⟨front, more, split, node, complete⟩

end Pattern

/-! ## Full patterns -/

namespace FullPattern

open Pattern

variable {pattern : String} {full : FullPattern}

theorem ofText?_eq_ok_iff : ofText? pattern = .ok full ↔
    full.source = pattern ∧ Regular.ofText? (anchored pattern) = some full.expression := by
  unfold ofText?
  cases Regular.ofText? (anchored pattern) with
  | none => simp
  | some expression =>
      rcases full with ⟨source, other⟩
      simp [eq_comm]

theorem ofText?_eq_error_iff : ofText? pattern = .error (.invalidPattern pattern) ↔
    ∀ full, ofText? pattern ≠ .ok full := by
  unfold ofText?
  cases Regular.ofText? (anchored pattern) with
  | none => simp
  | some expression => simp

theorem accepts_of_complete (complete : Complete pattern.toList) (found : ofText? pattern = .ok full) :
    ∃ expression, Denotes pattern expression ∧ ¬EndsInComment pattern ∧
      FitsAnchored pattern expression ∧ ∀ text,
        (Constraint.pattern full).accepts (.string text) = true ↔ expression.MatchesWhole text := by
  rcases ofText?_eq_ok_iff.mp found with ⟨-, read⟩
  rcases Regular.ofText?_eq_some_iff.mp read with ⟨denotes, size⟩
  rcases denotes_of_anchored complete denotes with ⟨expression, here, ends, same, depth⟩
  rw [same] at size
  refine ⟨expression, here, ends, ⟨depth, size⟩, fun text => ?_⟩
  change full.expression.occursIn text = true ↔ _
  rw [same, Regular.occursIn_anchored]

theorem denotes_unique {first second : Regular} (one : Denotes pattern first)
    (other : Denotes pattern second) : first = second := by
  rcases one with ⟨node, after, read, means⟩
  rcases other with ⟨node', after', read', means'⟩
  cases read.symm.trans read'
  cases means.symm.trans means'
  rfl

/-- A pattern that is valid by itself, and does not end in a comment, is matched in full; one that ends
in a comment, or for which the limits leave no room, is refused. Of the patterns that are not valid by
themselves, only those get through that close the group around them, or that only exceed the limit of
size as long as a match may begin anywhere. -/
theorem matches_in_full (pattern : String) :
    (∀ expression, Regular.ofText? pattern = some expression →
      (¬EndsInComment pattern → FitsAnchored pattern expression →
        ∃ full, ofText? pattern = .ok full ∧ ∀ text,
          (Constraint.pattern full).accepts (.string text) = true ↔ expression.MatchesWhole text) ∧
      (EndsInComment pattern ∨ ¬FitsAnchored pattern expression →
        ofText? pattern = .error (.invalidPattern pattern))) ∧
    (Regular.ofText? pattern = none → ¬LeavesGroup pattern →
      ∀ full, ofText? pattern = .ok full → ∃ expression, Denotes pattern expression ∧
        expression.fits = false ∧ ∀ text,
          (Constraint.pattern full).accepts (.string text) = true ↔ expression.MatchesWhole text) := by
  refine ⟨fun expression valid => ?_, fun invalid stays full found => ?_⟩
  · have denotes := (Regular.ofText?_eq_some_iff.mp valid).1
    have complete : Complete pattern.toList := by
      rcases denotes with ⟨node, _, read, -⟩
      exact ⟨node, (Node.ofText?_eq_some_iff.mp read).1⟩
    refine ⟨fun ends fits => ?_, fun refused => ofText?_eq_error_iff.mpr fun full found => ?_⟩
    · have read := Regular.ofText?_eq_some_iff.mpr ⟨denotes_anchored denotes ends fits.depth, fits.size⟩
      exact ⟨⟨pattern, expression.anchored⟩, ofText?_eq_ok_iff.mpr ⟨rfl, read⟩,
        expression.occursIn_anchored⟩
    · rcases accepts_of_complete complete found with ⟨other, here, ends, fits, -⟩
      cases denotes_unique denotes here
      exact refused.elim ends fun unfit => unfit fits
  · have denotes := (Regular.ofText?_eq_some_iff.mp (ofText?_eq_ok_iff.mp found).2).1
    have complete := (complete_of_anchored denotes).resolve_right stays
    rcases accepts_of_complete complete found with ⟨expression, here, -, -, accepts⟩
    refine ⟨expression, here, Bool.eq_false_iff.mpr fun small => ?_, accepts⟩
    cases invalid.symm.trans (Regular.ofText?_eq_some_iff.mpr ⟨here, small⟩)

/-- A word, a hyphen and two digits. -/
theorem matches_in_full_words :
    ∃ expression, Regular.ofText? "[a-z]+-[0-9]\x7b2\x7d" = some expression ∧
      ∃ full, ofText? "[a-z]+-[0-9]\x7b2\x7d" = .ok full ∧ ∀ text,
        (Constraint.pattern full).accepts (.string text) = true ↔ expression.MatchesWhole text := by
  refine ⟨_, rfl, ((matches_in_full "[a-z]+-[0-9]\x7b2\x7d").1 _ rfl).1 ?_ ⟨?_, ?_⟩⟩
  · rintro ⟨node, comment⟩
    cases comment
  · intro node read
    cases read
    decide
  · decide +kernel

/-- A pattern that is none by itself closes the group around it, and accepts a text that only begins
with a match; a pattern that ends in a comment is valid by itself, and refused. -/
theorem matches_beyond_group : Regular.ofText? "a)|(?:b" = none ∧
    (∃ full, ofText? "a)|(?:b" = .ok full ∧
      (Constraint.pattern full).accepts (.string "axyz") = true) ∧
    (∃ expression, Regular.ofText? "(?x)a#b" = some expression) ∧
    ofText? "(?x)a#b" = .error (.invalidPattern "(?x)a#b") := by
  have refused : Regular.ofText? (anchored "(?x)a#b") = none := by decide +kernel
  refine ⟨by decide +kernel, ⟨_, rfl, by decide +kernel⟩, ⟨_, rfl⟩, ?_⟩
  rw [ofText?, refused]

end FullPattern
end DocumentTypes
