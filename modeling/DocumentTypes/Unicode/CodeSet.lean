/-! # Sets of code points

A set of code points is kept as its spans: runs of neighbouring code points, in
ascending order, with a gap between any two of them. A set therefore has one form
only, and equal sets are equal as data. Every operation is stated by what it does to
membership. -/

namespace DocumentTypes.Unicode

/-- All code points from the first to the last. -/
structure Span where
  first : Nat
  last : Nat
  first_le_last : first ≤ last
  deriving DecidableEq, Repr

namespace Span

def contains (span : Span) (code : Nat) : Bool := span.first ≤ code && code ≤ span.last

def single (code : Nat) : Span := ⟨code, code, Nat.le_refl code⟩

/-- The code points from the first on that lie below a limit, if there are any. -/
def below? (first limit : Nat) : Option Span :=
  if room : first < limit then some ⟨first, limit - 1, by omega⟩ else none

def hull (left right : Span) : Span :=
  ⟨min left.first right.first, max left.last right.last, by
    have := left.first_le_last
    omega⟩

/-- One span ends before the other begins, with a gap between them. -/
def Before (left right : Span) : Prop := left.last + 1 < right.first

instance (left right : Span) : Decidable (left.Before right) :=
  inferInstanceAs (Decidable (left.last + 1 < right.first))

theorem contains_eq_decide (span : Span) (code : Nat) :
    span.contains code = decide (span.first ≤ code ∧ code ≤ span.last) := by
  simp [contains]

theorem contains_single (code other : Nat) :
    (single code).contains other = decide (other = code) := by
  simp only [contains_eq_decide, single, decide_eq_decide]
  omega

theorem contains_below? (first limit code : Nat) :
    (below? first limit).any (fun span => span.contains code) =
      decide (first ≤ code ∧ code < limit) := by
  unfold below?
  split
  · rw [Option.any_some, contains_eq_decide, decide_eq_decide]
    dsimp only
    omega
  · simp only [Option.any_none]
    rw [eq_comm, decide_eq_false_iff_not]
    omega

theorem contains_hull {left right : Span} (leftTouches : ¬ left.last + 1 < right.first)
    (rightTouches : ¬ right.last + 1 < left.first) (code : Nat) :
    (left.hull right).contains code = (left.contains code || right.contains code) := by
  have := left.first_le_last
  have := right.first_le_last
  simp only [contains_eq_decide, hull, ← Bool.decide_or, decide_eq_decide]
  omega

end Span

/-! ## Lists of spans -/

/-- Add a span to spans in order, joining it with those that it touches. -/
def insertSpan (span : Span) : List Span → List Span
  | [] => [span]
  | next :: rest =>
    if span.last + 1 < next.first then span :: next :: rest
    else if next.last + 1 < span.first then next :: insertSpan span rest
    else insertSpan (span.hull next) rest

def anyContains (spans : List Span) (code : Nat) : Bool :=
  spans.any fun span => span.contains code

theorem anyContains_insertSpan (span : Span) (spans : List Span) (code : Nat) :
    anyContains (insertSpan span spans) code =
      (span.contains code || anyContains spans code) := by
  induction spans generalizing span with
  | nil => simp [insertSpan, anyContains]
  | cons next rest induction =>
    unfold insertSpan
    split
    · simp [anyContains]
    · split
      · simp only [anyContains, List.any_cons] at induction ⊢
        rw [induction, Bool.or_left_comm]
      · rename_i leftTouches rightTouches
        rw [induction, Span.contains_hull leftTouches rightTouches]
        simp [anyContains, Bool.or_assoc]

theorem insertSpan_after {bound : Nat} {span : Span} {spans : List Span}
    (spanAfter : bound < span.first) (spansAfter : ∀ other ∈ spans, bound < other.first) :
    ∀ other ∈ insertSpan span spans, bound < other.first := by
  induction spans generalizing span with
  | nil => simpa [insertSpan] using spanAfter
  | cons next rest induction =>
    have nextAfter := spansAfter next (by simp)
    have restAfter := fun other member => spansAfter other (List.mem_cons_of_mem next member)
    unfold insertSpan
    split
    · simp only [List.forall_mem_cons]
      exact ⟨spanAfter, nextAfter, restAfter⟩
    · split
      · simp only [List.forall_mem_cons]
        exact ⟨nextAfter, induction spanAfter restAfter⟩
      · apply induction _ restAfter
        simp only [Span.hull]
        omega

theorem pairwise_insertSpan {spans : List Span} (span : Span)
    (apart : spans.Pairwise Span.Before) : (insertSpan span spans).Pairwise Span.Before := by
  induction spans generalizing span with
  | nil => simp [insertSpan]
  | cons next rest induction =>
    have ⟨nextBefore, restApart⟩ := List.pairwise_cons.mp apart
    unfold insertSpan
    split
    · rename_i spanBefore
      refine List.pairwise_cons.mpr ⟨?_, apart⟩
      simp only [List.forall_mem_cons]
      refine ⟨spanBefore, fun other member => ?_⟩
      have := nextBefore other member
      have := next.first_le_last
      simp only [Span.Before] at *
      omega
    · split
      · rename_i _ nextFirst
        exact List.pairwise_cons.mpr
          ⟨insertSpan_after nextFirst nextBefore, induction span restApart⟩
      · exact induction _ restApart

/-- Place a span among others by its first code point, and merge what follows it into
those after it. -/
def weave (span : Span) (merge : List Span → List Span) : List Span → List Span
  | [] => span :: merge []
  | next :: rest =>
    if span.first ≤ next.first then span :: merge (next :: rest)
    else next :: weave span merge rest

def mergeSpans : List Span → List Span → List Span
  | [], right => right
  | span :: rest, right => weave span (mergeSpans rest) right

theorem anyContains_weave {span : Span} {merge : List Span → List Span} {left : List Span}
    {code : Nat}
    (merges : ∀ spans, anyContains (merge spans) code =
      (anyContains left code || anyContains spans code)) (right : List Span) :
    anyContains (weave span merge right) code =
      (span.contains code || anyContains left code || anyContains right code) := by
  induction right with
  | nil =>
    have := merges []
    simp_all [weave, anyContains]
  | cons next rest induction =>
    unfold weave
    split
    · have := merges (next :: rest)
      simp_all [anyContains, Bool.or_assoc]
    · simp only [anyContains, List.any_cons] at induction ⊢
      rw [induction, Bool.or_left_comm]

theorem anyContains_mergeSpans (left right : List Span) (code : Nat) :
    anyContains (mergeSpans left right) code =
      (anyContains left code || anyContains right code) := by
  induction left generalizing right with
  | nil => simp [mergeSpans, anyContains]
  | cons span rest induction =>
    rw [mergeSpans, anyContains_weave induction right]
    simp [anyContains]

/-- The code points from the given one on that lie below a limit and in no span. -/
def gaps (limit next : Nat) : List Span → List Span
  | [] => (Span.below? next limit).toList
  | span :: rest =>
    (Span.below? next (min span.first limit)).toList ++ gaps limit (span.last + 1) rest

theorem anyContains_toList (span : Option Span) (code : Nat) :
    anyContains span.toList code = span.any fun span => span.contains code := by
  cases span <;> simp [anyContains]

theorem anyContains_append (left right : List Span) (code : Nat) :
    anyContains (left ++ right) code = (anyContains left code || anyContains right code) := by
  simp [anyContains]

theorem anyContains_of_after {spans : List Span} {code : Nat}
    (after : ∀ span ∈ spans, code < span.first) : anyContains spans code = false := by
  simp only [anyContains, List.any_eq_false, Span.contains_eq_decide, decide_eq_true_eq]
  intro span member
  have := after span member
  omega

theorem anyContains_gaps {limit next : Nat} {spans : List Span}
    (apart : spans.Pairwise Span.Before) (after : ∀ span ∈ spans, next ≤ span.first)
    (code : Nat) :
    anyContains (gaps limit next spans) code =
      (decide (next ≤ code ∧ code < limit) && !anyContains spans code) := by
  induction spans generalizing next with
  | nil =>
    rw [gaps, anyContains_toList, Span.contains_below?]
    simp [anyContains]
  | cons span rest induction =>
    have ⟨before, restApart⟩ := List.pairwise_cons.mp apart
    have nextFirst := after span (by simp)
    have ordered := span.first_le_last
    have restAfter : ∀ other ∈ rest, span.last + 1 ≤ other.first := fun other member =>
      Nat.le_of_lt (before other member)
    rw [gaps, anyContains_append, anyContains_toList, Span.contains_below?,
      induction restApart restAfter]
    have split : anyContains (span :: rest) code =
        (span.contains code || anyContains rest code) := by
      simp [anyContains]
    rw [split, Span.contains_eq_decide]
    by_cases early : code ≤ span.last
    · have absent : anyContains rest code = false :=
        anyContains_of_after fun other member => by
          have := restAfter other member
          omega
      simp only [absent, Bool.not_false, Bool.and_true, Bool.or_false, ← decide_not,
        ← Bool.decide_and, ← Bool.decide_or, decide_eq_decide]
      omega
    · cases anyContains rest code <;>
        simp only [Bool.not_false, Bool.not_true, Bool.and_true, Bool.and_false, Bool.or_false,
          Bool.or_true, ← decide_not, ← Bool.decide_and, ← Bool.decide_or, decide_eq_decide,
          decide_eq_false_iff_not] <;>
        omega

/-! ## Sets -/

/-- A set of code points: spans in ascending order with gaps between them. -/
structure CodeSet where
  spans : List Span
  apart : spans.Pairwise Span.Before
  deriving DecidableEq, Repr

namespace CodeSet

def contains (set : CodeSet) (code : Nat) : Bool := anyContains set.spans code

def empty : CodeSet := ⟨[], .nil⟩

def insert (span : Span) (set : CodeSet) : CodeSet :=
  ⟨insertSpan span set.spans, pairwise_insertSpan span set.apart⟩

/-- The set of all code points in some span. Spans may come in any order; ascending
order is the quickest. -/
def ofSpans (spans : List Span) : CodeSet := spans.foldr insert empty

theorem contains_ofSpans (spans : List Span) (code : Nat) :
    (ofSpans spans).contains code = anyContains spans code := by
  induction spans with
  | nil => rfl
  | cons span rest induction =>
    have step : (ofSpans (span :: rest)).contains code =
        (span.contains code || (ofSpans rest).contains code) :=
      anyContains_insertSpan span _ code
    rw [step, induction]
    simp [anyContains]

def union (left right : CodeSet) : CodeSet :=
  ofSpans (mergeSpans left.spans right.spans)

theorem contains_union (left right : CodeSet) (code : Nat) :
    (left.union right).contains code = (left.contains code || right.contains code) := by
  rw [union, contains_ofSpans, anyContains_mergeSpans]
  rfl

instance : Union CodeSet := ⟨union⟩

def unionOf (sets : List CodeSet) : CodeSet := sets.foldr union empty

def ofCodes (codes : List Nat) : CodeSet := ofSpans (codes.map Span.single)

theorem contains_ofCodes (codes : List Nat) (code : Nat) :
    (ofCodes codes).contains code = codes.contains code := by
  rw [ofCodes, contains_ofSpans, anyContains, Bool.eq_iff_iff]
  simp [Span.contains_single]

def limit : Nat := 0x110000

/-- The code points that are no characters but halves of a pair of sixteen bit
units. -/
def surrogates : CodeSet := ofSpans [⟨0xD800, 0xDFFF, by decide⟩]

def complement (set : CodeSet) : CodeSet := ofSpans (gaps limit 0 (set ∪ surrogates).spans)

theorem contains_complement (set : CodeSet) (code : Nat) :
    set.complement.contains code = (decide code.isValidChar && !set.contains code) := by
  have outside : (set ∪ surrogates).contains code =
      (set.contains code || surrogates.contains code) := contains_union set surrogates code
  have halves : surrogates.contains code = decide (0xD800 ≤ code ∧ code ≤ 0xDFFF) := by
    simp [surrogates, contains_ofSpans, anyContains, Span.contains]
  rw [complement, contains_ofSpans, anyContains_gaps (set ∪ surrogates).apart (by simp)]
  change (_ && !(set ∪ surrogates).contains code) = _
  rw [outside, halves]
  cases set.contains code
  · rw [Bool.false_or, Bool.not_false, Bool.and_true, ← decide_not, ← Bool.decide_and,
      decide_eq_decide]
    unfold limit Nat.isValidChar
    omega
  · simp

def intersection (left right : CodeSet) : CodeSet :=
  (left.complement ∪ right.complement).complement

def difference (left right : CodeSet) : CodeSet := (left.complement ∪ right).complement

def symmetricDifference (left right : CodeSet) : CodeSet :=
  left.difference right ∪ right.difference left

theorem contains_intersection (left right : CodeSet) (code : Nat) :
    (left.intersection right).contains code =
      (decide code.isValidChar && (left.contains code && right.contains code)) := by
  have both := contains_union left.complement right.complement code
  change (left.complement ∪ right.complement).contains code = _ at both
  rw [intersection, contains_complement, both, contains_complement, contains_complement]
  cases decide code.isValidChar <;> simp

theorem contains_difference (left right : CodeSet) (code : Nat) :
    (left.difference right).contains code =
      (decide code.isValidChar && (left.contains code && !right.contains code)) := by
  have both := contains_union left.complement right code
  change (left.complement ∪ right).contains code = _ at both
  rw [difference, contains_complement, both, contains_complement]
  cases decide code.isValidChar <;> simp

def all : CodeSet := empty.complement

def between (first last : Nat) : CodeSet :=
  (ofSpans (Span.below? first (last + 1)).toList).difference surrogates

def ascii : CodeSet := between 0 0x7f

def isAscii (set : CodeSet) : Bool := set.spans.all fun span => span.last < 0x80

def single? (set : CodeSet) : Option Nat :=
  match set.spans with
  | [span] => if span.first = span.last then some span.first else none
  | _ => none

example : (ofCodes [0x63, 0x61, 0x62]).spans.map (fun span => (span.first, span.last)) =
    [(0x61, 0x63)] := by decide +kernel

example : (complement (between 0x20 0x10ffff)).spans.map (fun span => (span.first, span.last)) =
    [(0, 0x1f)] := by decide +kernel

end CodeSet
end DocumentTypes.Unicode
