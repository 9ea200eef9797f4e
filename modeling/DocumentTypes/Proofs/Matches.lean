import DocumentTypes.Pattern.Matching
import Mathlib.Data.Nat.Bitwise
import Mathlib.Logic.Function.Iterate

/-! # Matches

What an expression matches is a relation between the places of a text: a match leads from the place
where it begins to the place where it ends. The matcher follows all places at once, and the places
that it comes to are just those to which some match leads. Matches only lead forwards, so no
repetition gets further than there are places, and it is enough to repeat as often. -/

namespace DocumentTypes.Pattern

open Unicode (CodeSet)

/-! ## Repetition -/

def Repeats (step : Nat → Nat → Prop) : Nat → Nat → Nat → Prop
  | 0, start, stop => stop = start
  | count + 1, start, stop => ∃ middle, step start middle ∧ Repeats step count middle stop

section Repeats

variable {step : Nat → Nat → Prop} {first second count start middle stop : Nat}

theorem Repeats.append (before : Repeats step first start middle)
    (after : Repeats step second middle stop) : Repeats step (first + second) start stop := by
  induction first generalizing start with
  | zero =>
      cases before
      rwa [Nat.zero_add]
  | succ first induction =>
      rcases before with ⟨next, here, rest⟩
      rw [Nat.succ_add]
      exact ⟨next, here, induction rest⟩

theorem Repeats.split (all : Repeats step (first + second) start stop) :
    ∃ middle, Repeats step first start middle ∧ Repeats step second middle stop := by
  induction first generalizing start with
  | zero =>
      rw [Nat.zero_add] at all
      exact ⟨start, rfl, all⟩
  | succ first induction =>
      rw [Nat.succ_add] at all
      rcases all with ⟨next, here, rest⟩
      rcases induction rest with ⟨middle, before, after⟩
      exact ⟨middle, ⟨next, here, before⟩, after⟩

theorem repeats_or_stay_iff : Repeats (fun start stop => stop = start ∨ step start stop) count
    start stop ↔ ∃ fewer, fewer ≤ count ∧ Repeats step fewer start stop := by
  induction count generalizing start with
  | zero =>
      constructor
      · rintro rfl
        exact ⟨0, Nat.le_refl _, rfl⟩
      · rintro ⟨fewer, atMost, reached⟩
        cases Nat.le_zero.mp atMost
        exact reached
  | succ count induction =>
      constructor
      · rintro ⟨middle, rfl | here, rest⟩
        · rcases induction.mp rest with ⟨fewer, atMost, reached⟩
          exact ⟨fewer, Nat.le_succ_of_le atMost, reached⟩
        · rcases induction.mp rest with ⟨fewer, atMost, reached⟩
          exact ⟨fewer + 1, Nat.succ_le_succ atMost, middle, here, reached⟩
      · rintro ⟨_ | fewer, atMost, reached⟩
        · exact ⟨start, .inl rfl, induction.mpr ⟨0, Nat.zero_le _, reached⟩⟩
        · rcases reached with ⟨middle, here, rest⟩
          exact ⟨middle, .inr here, induction.mpr ⟨fewer, Nat.le_of_succ_le_succ atMost, rest⟩⟩

end Repeats

/-! ## Matches -/

def charBefore? (text : List Char) : Nat → Option Char
  | 0 => none
  | place + 1 => text[place]?

/-- An expression matches what stands between two places of a text. A repetition may have any number
of rounds from the least to the greatest. -/
def Regular.Matches (text : List Char) : Regular → Nat → Nat → Prop
  | .empty, start, stop => stop = start
  | .set members, start, stop => stop = start + 1 ∧
      ∃ character, text[start]? = some character ∧ members.contains character.toNat = true
  | .place kind, start, stop =>
      stop = start ∧ kind.holds (charBefore? text start) text[start]? = true
  | .sequence first second, start, stop =>
      ∃ middle, first.Matches text start middle ∧ second.Matches text middle stop
  | .choice first second, start, stop =>
      first.Matches text start stop ∨ second.Matches text start stop
  | .repeated least most body, start, stop =>
      ∃ extra, (∀ greatest, most = some greatest → extra ≤ greatest - least) ∧
        Repeats (body.Matches text) (least + extra) start stop
  | .group _ body, start, stop => body.Matches text start stop

/-- An expression matches the whole of a text, from its first character to its last. -/
def Regular.MatchesWhole (expression : Regular) (text : String) : Prop :=
  expression.Matches text.toList 0 text.toList.length

/-! ## Sets of places -/

/-- A step of the matcher that comes to just those places to which a relation leads. The relation
leads forwards, and not beyond a bound. -/
structure Follows (bound : Nat) (step : Nat → Nat) (leads : Nat → Nat → Prop) : Prop where
  forwards : ∀ start stop, start ≤ bound → leads start stop → start ≤ stop ∧ stop ≤ bound
  testBit : ∀ places, (∀ place, places.testBit place = true → place ≤ bound) →
    ∀ stop, (step places).testBit stop = true ↔
      ∃ start, places.testBit start = true ∧ leads start stop

namespace Follows

variable {bound : Nat} {step other : Nat → Nat} {leads also : Nat → Nat → Prop} {places : Nat}

theorem bounded (follows : Follows bound step leads)
    (inside : ∀ place, places.testBit place = true → place ≤ bound) :
    ∀ place, (step places).testBit place = true → place ≤ bound := by
  intro stop reached
  rcases (follows.testBit places inside stop).mp reached with ⟨start, member, leads⟩
  exact (follows.forwards start stop (inside start member) leads).2

protected theorem id (bound : Nat) : Follows bound id fun start stop => stop = start where
  forwards := by
    rintro start stop inside rfl
    exact ⟨Nat.le_refl _, inside⟩
  testBit places _ stop := by simp

theorem comp (follows : Follows bound step leads) (next : Follows bound other also) :
    Follows bound (other ∘ step)
      fun start stop => ∃ middle, leads start middle ∧ also middle stop where
  forwards := by
    rintro start stop inside ⟨middle, before, after⟩
    have first := follows.forwards start middle inside before
    have second := next.forwards middle stop first.2 after
    omega
  testBit places inside stop := by
    rw [Function.comp_apply, next.testBit _ (follows.bounded inside)]
    simp only [follows.testBit places inside]
    constructor
    · rintro ⟨middle, ⟨start, member, before⟩, after⟩
      exact ⟨start, member, middle, before, after⟩
    · rintro ⟨start, member, middle, before, after⟩
      exact ⟨middle, ⟨start, member, before⟩, after⟩

theorem or (follows : Follows bound step leads) (alternative : Follows bound other also) :
    Follows bound (fun places => step places ||| other places)
      fun start stop => leads start stop ∨ also start stop where
  forwards start stop inside := fun
    | .inl leads => follows.forwards start stop inside leads
    | .inr leads => alternative.forwards start stop inside leads
  testBit places inside stop := by
    rw [Nat.testBit_or, Bool.or_eq_true, follows.testBit places inside,
      alternative.testBit places inside, ← exists_or]
    exact exists_congr fun _ => and_or_left.symm

theorem iterate (follows : Follows bound step leads) (count : Nat) :
    Follows bound step^[count] (Repeats leads count) := by
  induction count with
  | zero => exact Follows.id bound
  | succ count induction => exact follows.comp induction

theorem congr (follows : Follows bound step leads)
    (same : ∀ start stop, start ≤ bound → (leads start stop ↔ also start stop)) :
    Follows bound step also where
  forwards start stop inside also :=
    follows.forwards start stop inside ((same start stop inside).mpr also)
  testBit places inside stop := by
    rw [follows.testBit places inside]
    exact exists_congr fun start => and_congr_right fun member => same start stop (inside start member)

/-- Steps that stay where they are can be left out, so no more are needed than there are places on
the way. -/
theorem repeats_fewer (follows : Follows bound step leads) {count start stop : Nat}
    (inside : start ≤ bound) (reached : Repeats leads count start stop) :
    start ≤ stop ∧ stop ≤ bound ∧
      ∃ fewer, fewer ≤ stop - start ∧ Repeats leads fewer start stop := by
  induction count generalizing start with
  | zero =>
      cases reached
      exact ⟨Nat.le_refl _, inside, 0, Nat.zero_le _, rfl⟩
  | succ count induction =>
      rcases reached with ⟨middle, here, rest⟩
      have forwards := follows.forwards start middle inside here
      rcases induction forwards.2 rest with ⟨ahead, bounded, fewer, atMost, shorter⟩
      refine ⟨by omega, bounded, ?_⟩
      rcases Nat.eq_or_lt_of_le forwards.1 with rfl | moved
      · exact ⟨fewer, atMost, shorter⟩
      · exact ⟨fewer + 1, by omega, middle, here, shorter⟩

end Follows

theorem times_eq_iterate (step : Nat → Nat) (count places : Nat) :
    times step count places = step^[count] places := by
  induction count generalizing places with
  | zero => rfl
  | succ count induction =>
      rw [times, Function.iterate_succ_apply]
      split
      next same => rw [same, Function.iterate_fixed same]
      next => exact induction _

theorem within_eq_iterate (step : Nat → Nat) (count places : Nat) :
    within step count places = (fun places => places ||| step places)^[count] places := by
  induction count generalizing places with
  | zero => rfl
  | succ count induction =>
      rw [within, Function.iterate_succ_apply]
      split
      next same => rw [same, Function.iterate_fixed same]
      next => exact induction _

namespace Follows

variable {bound : Nat} {step : Nat → Nat} {leads : Nat → Nat → Prop}

theorem times (follows : Follows bound step leads) (count : Nat) :
    Follows bound (times step count) (Repeats leads count) := by
  rw [show Pattern.times step count = step^[count] from funext (times_eq_iterate step count)]
  exact follows.iterate count

theorem within (follows : Follows bound step leads) (count : Nat) :
    Follows bound (within step count)
      fun start stop => ∃ fewer, fewer ≤ count ∧ Repeats leads fewer start stop := by
  rw [show Pattern.within step count = (fun places => places ||| step places)^[count] from
    funext (within_eq_iterate step count)]
  exact (((Follows.id bound).or follows).iterate count).congr fun _ _ _ => repeats_or_stay_iff

/-- A repetition without a greatest number of rounds is followed by as many as there are places. -/
theorem repeated (follows : Follows bound step leads) (least : Nat) (most : Option Nat) :
    Follows bound (Pattern.within step (most.elim (bound + 1) (· - least)) ∘ Pattern.times step least)
      fun start stop => ∃ extra, (∀ greatest, most = some greatest → extra ≤ greatest - least) ∧
        Repeats leads (least + extra) start stop := by
  refine ((follows.times least).comp (follows.within _)).congr fun start stop inside => ?_
  constructor
  · rintro ⟨middle, before, fewer, atMost, after⟩
    refine ⟨fewer, ?_, before.append after⟩
    rintro greatest rfl
    exact atMost
  · rintro ⟨extra, atMost, all⟩
    rcases all.split with ⟨middle, before, after⟩
    refine ⟨middle, before, ?_⟩
    cases most with
    | some greatest => exact ⟨extra, atMost greatest rfl, after⟩
    | none =>
        have reached := follows.repeats_fewer inside before
        rcases follows.repeats_fewer reached.2.1 after with ⟨-, bounded, fewer, few, shorter⟩
        exact ⟨fewer, by dsimp only [Option.elim]; omega, shorter⟩

end Follows

/-! ## Characters and conditions -/

theorem testBit_foldl_or {α : Type} (items : List α) (test : α → Bool) (places : α → Nat)
    (initial place : Nat) :
    (items.foldl (fun found item => if test item then found ||| places item else found)
      initial).testBit place = true ↔ initial.testBit place = true ∨
      ∃ item ∈ items, test item = true ∧ (places item).testBit place = true := by
  induction items generalizing initial with
  | nil => simp
  | cons item rest induction =>
      rw [List.foldl_cons, induction]
      simp only [List.mem_cons, or_and_right, exists_or]
      split
      next holds => simp [holds, or_assoc]
      next fails => simp [fails]

theorem testBit_one_shiftLeft {shift place : Nat} :
    (1 <<< shift).testBit place = true ↔ place = shift := by
  rw [Nat.one_shiftLeft, Nat.testBit_two_pow, decide_eq_true_eq, eq_comm]

namespace Occurrences

variable {table : Occurrences} {text : List Char} {character : Char} {place : Nat}

def Lists (table : Occurrences) (character : Char) (place : Nat) : Prop :=
  ∃ places, (character, places) ∈ table ∧ places.testBit place = true

theorem lists_cons {entry : Char × Nat} : Lists (entry :: table) character place ↔
    character = entry.1 ∧ entry.2.testBit place = true ∨ table.Lists character place := by
  simp only [Lists, List.mem_cons, Prod.eq_iff_fst_eq_snd_eq, or_and_right, exists_or, and_assoc,
    exists_and_left, exists_eq_left]

theorem lists_note {noted : Char} {notedPlace : Nat} :
    (note noted notedPlace table).Lists character place ↔
      character = noted ∧ place = notedPlace ∨ table.Lists character place := by
  induction table with
  | nil => rw [note, lists_cons, testBit_one_shiftLeft]
  | cons entry rest induction =>
      rw [note]
      split
      next same =>
        subst same
        rw [lists_cons, lists_cons]
        simp only [Nat.testBit_or, Bool.or_eq_true, testBit_one_shiftLeft, and_or_left]
        rw [or_assoc, or_left_comm]
      next => rw [lists_cons, induction, lists_cons, or_left_comm]

theorem lists_ofText : (ofText text).Lists character place ↔ text[place]? = some character := by
  have noteAll (items : List (Char × Nat)) (table : Occurrences) :
      Lists (items.foldl (fun table item => note item.1 item.2 table) table)
        character place ↔ (character, place) ∈ items ∨ table.Lists character place := by
    induction items generalizing table with
    | nil => simp
    | cons item rest induction =>
        rw [List.foldl_cons, induction, lists_note, List.mem_cons, Prod.mk.injEq]
        exact or_left_comm.trans or_assoc.symm
  refine (noteAll text.zipIdx []).trans ?_
  simp [Lists, List.mk_mem_zipIdx_iff_getElem?]

theorem testBit_placesOf {members : CodeSet} :
    ((ofText text).placesOf members).testBit place = true ↔
      ∃ character, text[place]? = some character ∧ members.contains character.toNat = true := by
  have collected := testBit_foldl_or (ofText text) (fun entry => members.contains entry.1.toNat)
    Prod.snd 0 place
  refine collected.trans ?_
  rw [Nat.zero_testBit]
  simp only [Bool.false_eq_true, false_or, ← lists_ofText, Lists, Prod.exists]
  grind

end Occurrences

theorem getElem?_neighbours {text : List Char} {place : Nat} {before after : Option Char} :
    (neighbours text)[place]? = some (before, after) ↔
      place ≤ text.length ∧ before = charBefore? text place ∧ after = text[place]? := by
  have befores : (none :: text.map some)[place]? = some before ↔
      place ≤ text.length ∧ before = charBefore? text place := by
    cases place with
    | zero => simp [charBefore?, eq_comm]
    | succ place =>
      rw [List.getElem?_cons_succ, List.getElem?_map, charBefore?]
      by_cases inside : place < text.length
      · have within : place + 1 ≤ text.length := inside
        simp [inside, within, eq_comm]
      · have outside : text.length ≤ place := Nat.le_of_not_lt inside
        have without : ¬place + 1 ≤ text.length := inside
        simp [outside, without]
  have afters (inside : place ≤ text.length) :
      (text.map some ++ [none])[place]? = some after ↔ after = text[place]? := by
    rcases Nat.lt_or_eq_of_le inside with less | rfl
    · rw [List.getElem?_append_left (by simpa using less), List.getElem?_map]
      simp [less, eq_comm]
    · rw [List.getElem?_append_right (by simp)]
      simp [eq_comm]
  rw [neighbours, List.getElem?_zip_eq_some, befores, and_assoc]
  exact and_congr_right fun inside => and_congr_right fun _ => afters inside

theorem testBit_placesWhere {holds : Option Char → Option Char → Bool} {text : List Char}
    {place : Nat} : (placesWhere holds text).testBit place = true ↔
      place ≤ text.length ∧ holds (charBefore? text place) text[place]? = true := by
  have collected := testBit_foldl_or (neighbours text).zipIdx (fun item => holds item.1.1 item.1.2)
    (fun item => 1 <<< item.2) 0 place
  refine collected.trans ?_
  rw [Nat.zero_testBit]
  simp only [Bool.false_eq_true, false_or, Prod.exists, List.mk_mem_zipIdx_iff_getElem?,
    getElem?_neighbours, testBit_one_shiftLeft]
  grind

/-! ## Expressions -/

namespace Regular

variable {expression : Regular} {text : String}

theorem follows_set (text : List Char) (members : CodeSet) :
    Follows text.length (Fitted.step (Occurrences.placesOf (.ofText text) members)).ends
      (Matches text (.set members)) where
  forwards := by
    rintro start stop - ⟨rfl, character, found, -⟩
    have inside := (List.getElem?_eq_some_iff.mp found).1
    omega
  testBit places _ stop := by
    have double (number : Nat) : 2 * number = number <<< 1 := by
      rw [Nat.shiftLeft_eq, Nat.pow_one, Nat.mul_comm]
    rw [Fitted.ends, double, Nat.testBit_shiftLeft, Bool.and_eq_true, decide_eq_true_eq,
      Nat.testBit_and, Bool.and_eq_true, Occurrences.testBit_placesOf]
    constructor
    · rintro ⟨moved, member, found⟩
      exact ⟨stop - 1, member, (Nat.sub_add_cancel moved).symm, found⟩
    · rintro ⟨start, member, rfl, found⟩
      exact ⟨Nat.le_add_left 1 start, member, found⟩

theorem follows_place (text : List Char) (kind : Place) :
    Follows text.length (Fitted.check (placesWhere kind.holds text)).ends
      (Matches text (.place kind)) where
  forwards := by
    rintro start stop inside ⟨rfl, -⟩
    exact ⟨Nat.le_refl _, inside⟩
  testBit places inside stop := by
    rw [Fitted.ends, Nat.testBit_and, Bool.and_eq_true, testBit_placesWhere]
    constructor
    · rintro ⟨member, -, holds⟩
      exact ⟨stop, member, rfl, holds⟩
    · rintro ⟨start, member, rfl, holds⟩
      exact ⟨member, inside _ member, holds⟩

/-- The matcher comes from some places to just those to which matches lead. -/
theorem follows (text : List Char) (expression : Regular) :
    Follows text.length (expression.fit text (.ofText text)).ends (expression.Matches text) := by
  induction expression with
  | empty => exact Follows.id text.length
  | set members => exact follows_set text members
  | place kind => exact follows_place text kind
  | sequence first second firstFollows secondFollows => exact firstFollows.comp secondFollows
  | choice first second firstFollows secondFollows => exact firstFollows.or secondFollows
  | repeated least most body bodyFollows => exact bodyFollows.repeated least most
  | group _ body bodyFollows => exact bodyFollows

theorem Matches.bounded {text : List Char} {start stop : Nat} (inside : start ≤ text.length)
    (matched : expression.Matches text start stop) : start ≤ stop ∧ stop ≤ text.length :=
  (expression.follows text).forwards start stop inside matched

theorem occursIn_iff : expression.occursIn text = true ↔
    ∃ start stop, start ≤ text.toList.length ∧ expression.Matches text.toList start stop := by
  have all (place : Nat) : (Nat.pow 2 (text.toList.length + 1) - 1).testBit place = true ↔
      place ≤ text.toList.length := by
    rw [Nat.pow_eq, Nat.testBit_two_pow_sub_one, decide_eq_true_eq, Nat.lt_succ_iff]
  have ends (stop : Nat) := (expression.follows text.toList).testBit _ (fun place => (all place).mp) stop
  have nonzero (places : Nat) : places ≠ 0 ↔ ∃ place, places.testBit place = true := by
    refine ⟨Nat.exists_testBit_of_ne_zero, ?_⟩
    rintro ⟨place, member⟩ rfl
    rw [Nat.zero_testBit] at member
    cases member
  rw [occursIn, bne_iff_ne, nonzero, exists_comm]
  simp only [ends, all]

end Regular
end DocumentTypes.Pattern
