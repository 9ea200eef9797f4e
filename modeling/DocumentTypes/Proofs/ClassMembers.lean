import DocumentTypes.Proofs.Matches

/-! # Members of classes

The classes of a pattern are computed on spans of code points: spans are joined, cut out of each
other, and closed under case. What comes out contains a code point just if the class says so. -/

namespace DocumentTypes.Pattern

open Unicode (CodeSet)

variable {settings : Settings} {negated : Bool} {set result : CodeSet} {code : Nat}

/-! ## What classes say -/

/-- Where case is ignored, a member brings in all that differ from it only in case. -/
def Folded (settings : Settings) (members : Nat → Prop) (code : Nat) : Prop :=
  members code ∨ settings.caseInsensitive = true ∧
    ∃ group ∈ if settings.unicode then Unicode.caseOrbits else asciiPairs,
      code ∈ group ∧ ∃ other ∈ group, members other

def Negated (negated : Bool) (members : Nat → Prop) (code : Nat) : Prop :=
  if negated then code.isValidChar ∧ ¬members code else members code

def SetOperation.Holds : SetOperation → Prop → Prop → Prop
  | .intersection, left, right => left ∧ right
  | .difference, left, right => left ∧ ¬right
  | .symmetricDifference, left, right => left ∧ ¬right ∨ right ∧ ¬left

def PropertyQuery.members? : PropertyQuery → Option CodeSet
  | .named name => Unicode.propertyNamed? name
  | .valued property value => Unicode.propertyValue? property value

mutual

def ClassSet.Holds (settings : Settings) : ClassSet → Nat → Prop
  | .range first last, code =>
    code.isValidChar ∧ first.character.toNat ≤ code ∧ code ≤ last.character.toNat
  | .ascii name negated, code =>
    Negated negated (Folded settings fun other => name.members.contains other) code
  | .shorthand name negated, code =>
    Negated negated (fun other => (name.members settings).contains other) code
  | .property query negated, code => ∃ set ∈ query.members?,
    Negated negated (Folded settings fun other => set.contains other) code
  | .bracketed negated content, code =>
    Negated negated (Folded settings fun other => content.Holds settings other) code
  | .union items, code => ClassSet.AnyHolds settings items code
  | .operation operator left right, code => code.isValidChar ∧ operator.Holds
    (Folded settings (fun other => left.Holds settings other) code)
    (Folded settings (fun other => right.Holds settings other) code)

def ClassSet.AnyHolds (settings : Settings) : List ClassSet → Nat → Prop
  | [], _ => False
  | item :: rest, code => item.Holds settings code ∨ ClassSet.AnyHolds settings rest code

end

/-! ## What is computed -/

theorem contains_between (first last code : Nat) : (CodeSet.between first last).contains code ↔
    code.isValidChar ∧ first ≤ code ∧ code ≤ last := by
  have halves : CodeSet.surrogates.contains code = decide (0xD800 ≤ code ∧ code ≤ 0xDFFF) := by
    simp [CodeSet.surrogates, CodeSet.contains_ofSpans, Unicode.anyContains, Unicode.Span.contains]
  rw [CodeSet.between, CodeSet.contains_difference, CodeSet.contains_ofSpans,
    Unicode.anyContains_toList, Unicode.Span.contains_below?, halves]
  simp only [Bool.and_eq_true, decide_eq_true_eq, Bool.not_eq_true', decide_eq_false_iff_not]
  unfold Nat.isValidChar
  omega

theorem contains_fold (settings : Settings) (set : CodeSet) (code : Nat) :
    (fold settings set).contains code ↔ Folded settings (fun other => set.contains other) code := by
  have closed (groups : List (List Nat)) := CodeSet.contains_closed groups set code
  unfold fold Folded
  cases settings.caseInsensitive with
  | false => simp
  | true =>
      cases settings.unicode with
      | true =>
          change (set.foldCase.contains code) = true ↔ _
          rw [CodeSet.foldCase, closed]
          simp
      | false =>
          change ((foldAscii set).contains code) = true ↔ _
          rw [foldAscii, closed]
          simp

theorem contains_negate? (negates : negate? settings negated set = some result) (code : Nat) :
    result.contains code ↔ Negated negated (fun other => set.contains other) code := by
  unfold negate? at negates
  unfold Negated
  cases negated with
  | false =>
      cases negates
      exact Iff.rfl
  | true =>
      cases unicode : settings.unicode with
      | false => simp [unicode] at negates
      | true =>
          simp only [unicode] at negates
          cases negates
          rw [CodeSet.contains_complement]
          simp

theorem negated_congr {members others : Nat → Prop} (same : ∀ code, members code ↔ others code)
    (negated : Bool) (code : Nat) : Negated negated members code ↔ Negated negated others code := by
  rw [funext fun code => propext (same code)]

theorem contains_foldAndNegate? {members : Nat → Prop}
    (negates : foldAndNegate? settings negated set = some result)
    (same : ∀ code, set.contains code ↔ members code) (code : Nat) :
    result.contains code ↔ Negated negated (Folded settings members) code := by
  rw [contains_negate? negates, ← funext fun code => propext (same code)]
  exact negated_congr (contains_fold settings set) negated code

theorem SetOperation.contains_apply (operation : SetOperation) (left right : CodeSet) (code : Nat) :
    (operation.apply left right).contains code ↔ code.isValidChar ∧
      operation.Holds (left.contains code) (right.contains code) := by
  cases operation with
  | intersection =>
      change (left.intersection right).contains code = true ↔ _
      rw [CodeSet.contains_intersection]
      simp [Holds]
  | difference =>
      change (left.difference right).contains code = true ↔ _
      rw [CodeSet.contains_difference]
      simp [Holds]
  | symmetricDifference =>
      have both := CodeSet.contains_union (left.difference right) (right.difference left) code
      change (left.symmetricDifference right).contains code = _ at both
      change (left.symmetricDifference right).contains code = true ↔ _
      rw [both, CodeSet.contains_difference, CodeSet.contains_difference]
      simp [Holds, and_or_left]

theorem PropertyQuery.codes?_eq_some {query : PropertyQuery}
    (computed : query.codes? settings negated = some result) :
    ∃ set, query.members? = some set ∧ foldAndNegate? settings negated set = some result := by
  unfold codes? at computed
  cases query with
  | named | valued =>
      rcases Option.bind_eq_some_iff.mp computed with ⟨set, known, negates⟩
      refine ⟨set, known, ?_⟩
      split at negates
      · exact negates
      · cases negates

theorem Literal.eq_of_code? {literal : Literal} (computed : literal.code? settings = some code) :
    code = literal.character.toNat := by
  unfold code? at computed
  dsimp only at computed
  split at computed
  · exact (Option.some.inj computed).symm
  · exact (Option.some_ne_none code computed.symm).elim

/-! ## Classes -/

mutual

/-- The induction is on the parts of the class. -/
theorem ClassSet.contains_codes? : (content : ClassSet) → {set : CodeSet} →
    content.codes? settings = some set → ∀ code, set.contains code ↔ content.Holds settings code
  | .range first last, set, computed, code => by
      unfold ClassSet.codes? at computed
      unfold ClassSet.Holds
      rcases Option.bind_eq_some_iff.mp computed with ⟨firstCode, firstComputed, computed⟩
      rcases Option.bind_eq_some_iff.mp computed with ⟨lastCode, lastComputed, same⟩
      cases Literal.eq_of_code? firstComputed
      cases Literal.eq_of_code? lastComputed
      rw [← Option.some.inj same]
      exact contains_between _ _ code
  | .ascii name negated, set, computed, code => by
      unfold ClassSet.codes? at computed
      unfold ClassSet.Holds
      exact contains_foldAndNegate? computed (fun _ => Iff.rfl) code
  | .shorthand name negated, set, computed, code => by
      unfold ClassSet.codes? Shorthand.codes? at computed
      unfold ClassSet.Holds
      exact contains_negate? computed code
  | .property query negated, set, computed, code => by
      unfold ClassSet.codes? at computed
      unfold ClassSet.Holds
      rcases query.codes?_eq_some computed with ⟨members, known, negates⟩
      rw [contains_foldAndNegate? negates (fun _ => Iff.rfl) code]
      simp [known]
  | .bracketed negated content, set, computed, code => by
      unfold ClassSet.codes? at computed
      unfold ClassSet.Holds
      rcases Option.bind_eq_some_iff.mp computed with ⟨inner, innerComputed, negates⟩
      exact contains_foldAndNegate? negates (content.contains_codes? innerComputed) code
  | .union items, set, computed, code => by
      unfold ClassSet.codes? at computed
      unfold ClassSet.Holds
      exact ClassSet.contains_unionCodes? items computed code
  | .operation operator left right, set, computed, code => by
      unfold ClassSet.codes? at computed
      unfold ClassSet.Holds
      rcases Option.bind_eq_some_iff.mp computed with ⟨leftSet, leftComputed, computed⟩
      rcases Option.bind_eq_some_iff.mp computed with ⟨rightSet, rightComputed, same⟩
      cases same
      rw [SetOperation.contains_apply, contains_fold, contains_fold,
        funext fun code => propext (left.contains_codes? leftComputed code),
        funext fun code => propext (right.contains_codes? rightComputed code)]

theorem ClassSet.contains_unionCodes? : (items : List ClassSet) → {set : CodeSet} →
    ClassSet.unionCodes? settings items = some set →
      ∀ code, set.contains code ↔ ClassSet.AnyHolds settings items code
  | [], set, computed, code => by
      cases computed
      exact iff_of_false Bool.false_ne_true id
  | item :: rest, set, computed, code => by
      unfold ClassSet.unionCodes? at computed
      unfold ClassSet.AnyHolds
      rcases Option.bind_eq_some_iff.mp computed with ⟨first, firstComputed, computed⟩
      rcases Option.bind_eq_some_iff.mp computed with ⟨others, othersComputed, same⟩
      cases same
      rw [← item.contains_codes? firstComputed code,
        ← ClassSet.contains_unionCodes? rest othersComputed code, ← Bool.or_eq_true]
      exact Bool.eq_iff_iff.mp (CodeSet.contains_union first others code)

end

/-! ## Patterns -/

variable {text : List Char} {start stop : Nat} {expression : Regular} {after : Settings}

theorem matches_set_iff {members : Nat → Prop} (same : ∀ code, set.contains code ↔ members code) :
    (Regular.set set).Matches text start stop ↔ stop = start + 1 ∧
      ∃ character, text[start]? = some character ∧ members character.toNat :=
  and_congr_right fun _ => exists_congr fun _ => and_congr_right fun _ => same _

theorem matches_bracketed {content : ClassSet}
    (meaning : (Node.bracketed negated content).meaning? settings = some (expression, after)) :
    expression.Matches text start stop ↔ stop = start + 1 ∧ ∃ character,
      text[start]? = some character ∧
        (ClassSet.bracketed negated content).Holds settings character.toNat := by
  unfold Node.meaning? at meaning
  rcases Option.bind_eq_some_iff.mp meaning with ⟨inner, innerComputed, meaning⟩
  rcases Option.bind_eq_some_iff.mp meaning with ⟨members, negates, same⟩
  cases same
  refine matches_set_iff fun code => ?_
  rw [ClassSet.Holds]
  exact contains_foldAndNegate? negates (content.contains_codes? innerComputed) code

theorem matches_digit (unicode : settings.unicode = true)
    (meaning : (Node.shorthand .digit negated).meaning? settings = some (expression, after)) :
    expression.Matches text start stop ↔ stop = start + 1 ∧ ∃ character,
      text[start]? = some character ∧ Unicode.isDecimalDigit character = !negated := by
  unfold Node.meaning? Shorthand.codes? at meaning
  rcases Option.map_eq_some_iff.mp meaning with ⟨members, negates, same⟩
  cases same
  rw [Shorthand.members, if_pos unicode] at negates
  rw [matches_set_iff (contains_negate? negates)]
  refine and_congr_right fun _ => exists_congr fun character => and_congr_right fun _ => ?_
  have valid : character.toNat.isValidChar := character.valid
  rw [← Unicode.contains_decimalDigits, Negated]
  cases negated <;> simp [valid]

end DocumentTypes.Pattern
