import DocumentTypes.Text.Hexadecimal
import DocumentTypes.Yaml.Cursor

/-! # Scalars

The texts of plain, quoted and block scalars. Line breaks inside a flowing text are
folded: a single break becomes a space, and of several the first is dropped. Each
function reads from a place and returns the text with the place after it, or
nothing when the scalar is malformed. -/

namespace DocumentTypes.Yaml

open Text (hexDigit?)

/-- Blanks and breaks between two parts of a flowing text: the blanks before the
first break, whether a break was met, the first break, and the later ones. -/
structure Gap where
  blanks : List Char
  broken : Bool
  first : List Char
  later : List Char

namespace Gap

def none : Gap := ⟨[], false, [], []⟩

/-- After an escaped line break: later blanks are dropped, and no break counts as
the first. -/
def escaped : Gap := ⟨[], true, [], []⟩

def fold (gap : Gap) : List Char :=
  if !gap.broken then gap.blanks
  else if gap.first == ['\n'] then
    if gap.later.isEmpty then [' '] else gap.later
  else gap.first ++ gap.later

def addBreak (gap : Gap) (lineBreak : List Char) : Gap :=
  if gap.broken then { gap with later := gap.later ++ lineBreak }
  else ⟨[], true, lineBreak, []⟩

end Gap

/-- Read a gap. Where a tab may not serve as indentation, the least column of the
text is given. -/
def takeGap? (tabsFrom : Option Nat) : Nat → Gap → Cursor → Option (Gap × Cursor)
  | 0, _, _ => none
  | fuel + 1, gap, cursor =>
    match cursor.head? with
    | none => some (gap, cursor)
    | some character =>
      if isBlank character then
        if gap.broken && character == '\t' && tabsFrom.any (cursor.column < ·) then none
        else if gap.broken then takeGap? tabsFrom fuel gap (cursor.skip 1)
        else takeGap? tabsFrom fuel { gap with blanks := gap.blanks ++ [character] } (cursor.skip 1)
      else if isBreak character then
        let (lineBreak, next) := cursor.takeBreak
        takeGap? tabsFrom fuel (gap.addBreak lineBreak) next
      else some (gap, cursor)

/-! ## Plain scalars -/

def isFlowIndicator (character : Char) : Bool :=
  character == ',' || character == '[' || character == ']' ||
    character == '\x7b' || character == '\x7d'

/-- The characters up to a blank or to an indicator that ends the scalar. Inside
brackets a colon may not touch an indicator. -/
def takePlainWord? (inFlow : Bool) : Nat → Cursor → Option (List Char × Cursor)
  | 0, _ => none
  | fuel + 1, cursor =>
    match cursor.head? with
    | none => some ([], cursor)
    | some character =>
      if isBlank character || isBreak character then some ([], cursor)
      else if inFlow && character == ':' &&
          cursor.holdsAt 1 (fun next => isFlowIndicator next || next == '?') then none
      else if (character == ':' && cursor.separatedAt 1) ||
          (inFlow && isFlowIndicator character) then some ([], cursor)
      else
        (takePlainWord? inFlow fuel (cursor.skip 1)).map fun (word, next) =>
          (character :: word, next)

/-- A plain scalar, given the text before this place and the gap after it. The last
component tells whether a line break follows. -/
def takePlain? (inFlow : Bool) (indent : Nat) :
    Nat → List Char → Gap → Cursor → Option (List Char × Bool × Cursor)
  | 0, _, _, _ => none
  | fuel + 1, text, gap, cursor =>
    if cursor.atDocumentMark || cursor.looksAt ['#'] then some (text, gap.broken, cursor)
    else do
      let (word, afterWord) ← takePlainWord? inFlow (cursor.rest.length + 1) cursor
      let (text, gap) := if word.isEmpty then (text, gap) else (text ++ gap.fold ++ word, .none)
      if !afterWord.head?.any fun character => isBlank character || isBreak character then
        some (text, gap.broken, afterWord)
      else
        let (gap, next) ← takeGap? (some indent) (afterWord.rest.length + 1) gap afterWord
        if !inFlow && next.column < indent then some (text, gap.broken, next)
        else takePlain? inFlow indent fuel text gap next

/-! ## Quoted scalars -/

/-- The character that a single letter after a backslash stands for. -/
def shortEscape? : Char → Option Char
  | '0' => some '\x00'
  | 'a' => some '\x07'
  | 'b' => some '\x08'
  | 't' | '\t' => some '\t'
  | 'n' => some '\n'
  | 'v' => some '\x0b'
  | 'f' => some '\x0c'
  | 'r' => some '\r'
  | 'e' => some '\x1b'
  | ' ' => some ' '
  | '"' => some '"'
  | '/' => some '/'
  | '\\' => some '\\'
  | 'N' => some '\u0085'
  | '_' => some '\u00a0'
  | 'L' => some '\u2028'
  | 'P' => some '\u2029'
  | _ => none

def escapeWidth? : Char → Option Nat
  | 'x' => some 2
  | 'u' => some 4
  | 'U' => some 8
  | _ => none

def hexNumber? (digits : List Char) : Option Nat :=
  digits.foldlM (fun value digit => do
    let digit ← hexDigit? digit
    some (value * 16 + digit)) 0

def takeEscape? (cursor : Cursor) : Option (Char × Cursor) := do
  let letter ← cursor.head?
  match escapeWidth? letter with
  | some width =>
    let digits := (cursor.rest.drop 1).take width
    if digits.length != width then none
    else
      let code ← hexNumber? digits
      if code.isValidChar then some (Char.ofNat code, cursor.skip (width + 1)) else none
  | none => (shortEscape? letter).map fun character => (character, cursor.skip 1)

/-- How a stretch of quoted characters ends. -/
inductive QuotedStop
  | blank
  | quote
  | escapedBreak

/-- Quoted characters up to a blank, a quote or an escaped line break. -/
def takeQuotedWord? (single : Bool) :
    Nat → Cursor → Option (List Char × QuotedStop × Cursor)
  | 0, _ => none
  | fuel + 1, cursor =>
    let continued (character : Char) (next : Cursor) :=
      (takeQuotedWord? single fuel next).map fun (word, stop, after) =>
        (character :: word, stop, after)
    match cursor.head? with
    | none => some ([], .blank, cursor)
    | some character =>
      if isBlank character || isBreak character then some ([], .blank, cursor)
      else if single && cursor.looksAt ['\'', '\''] then continued '\'' (cursor.skip 2)
      else if character == (if single then '\'' else '"') then some ([], .quote, cursor)
      else if !single && character == '\\' then
        if cursor.holdsAt 1 isBreak then some ([], .escapedBreak, (cursor.skip 1).skipBreak)
        else do
          let (escaped, next) ← takeEscape? (cursor.skip 1)
          continued escaped next
      else continued character (cursor.skip 1)

def takeQuoted? (single : Bool) : Nat → Cursor → Option (List Char × Cursor)
  | 0, _ => none
  | fuel + 1, cursor =>
    if cursor.atDocumentMark || cursor.atEnd then none
    else do
      let (word, stop, next) ← takeQuotedWord? single (cursor.rest.length + 1) cursor
      match stop with
      | .quote => some (word, next.skip 1)
      | _ =>
        let gap := match stop with
          | .escapedBreak => Gap.escaped
          | _ => Gap.none
        -- A quote right after an escaped break closes the scalar.
        if next.looksAt [if single then '\'' else '"'] then some (word, next.skip 1)
        else
          let (gap, next) ← takeGap? none (next.rest.length + 1) gap next
          let (text, after) ← takeQuoted? single fuel next
          some (word ++ gap.fold ++ text, after)

/-! ## Block scalars -/

/-- What becomes of the line breaks at the end of a block scalar. -/
inductive Chomping
  | strip
  | clip
  | keep

/-- The header of a block scalar after its indicator: chomping and an explicit
indentation, in either order. -/
def takeBlockHeader? (cursor : Cursor) : Option (Chomping × Option Nat × Cursor) :=
  let takeChomping (cursor : Cursor) : Option Chomping × Cursor :=
    if cursor.looksAt ['+'] then (some .keep, cursor.skip 1)
    else if cursor.looksAt ['-'] then (some .strip, cursor.skip 1)
    else (none, cursor)
  let takeIndent? (cursor : Cursor) : Option (Option Nat × Cursor) :=
    match cursor.head? with
    | some digit =>
      if digit == '0' then none
      else if digit.isDigit then some (some (digit.toNat - '0'.toNat), cursor.skip 1)
      else some (none, cursor)
    | none => some (none, cursor)
  match takeChomping cursor with
  | (some chomping, next) => (takeIndent? next).map fun (indent, next) => (chomping, indent, next)
  | (none, _) => do
    let (indent, next) ← takeIndent? cursor
    let (chomping, next) := if indent.isSome then takeChomping next else (none, next)
    some (chomping.getD .clip, indent, next)

/-- Breaks and indentation before a line of a block scalar. As long as the
indentation is not known, all spaces belong to it; the widest column is returned
too. A tab is no indentation. -/
def takeBlockBreaks? (indent : Option Nat) :
    Nat → Nat → Cursor → Option (List Char × Nat × Cursor)
  | 0, _, _ => none
  | fuel + 1, widest, cursor =>
    let spaces := (cursor.rest.takeWhile (· == ' ')).length
    let cursor := cursor.skip (match indent with
      | some indent => min spaces (indent - cursor.column)
      | none => spaces)
    let widest := max widest cursor.column
    if indent.all (cursor.column < ·) && cursor.looksAt ['\t'] then none
    else if cursor.head?.any isBreak then
      let (lineBreak, next) := cursor.takeBreak
      (takeBlockBreaks? indent fuel widest next).map fun (breaks, widest, after) =>
        (lineBreak ++ breaks, widest, after)
    else some ([], widest, cursor)

/-- The lines of a block scalar: the text before this place, the break that ended
its last line, the breaks after that, and whether that line began with a blank. -/
structure BlockLines where
  text : List Char
  lastBreak : List Char
  breaks : List Char
  blankLine : Bool

def takeBlockLines? (literal : Bool) (indent : Nat) :
    Nat → BlockLines → Cursor → Option (BlockLines × Cursor)
  | 0, _, _ => none
  | fuel + 1, lines, cursor =>
    if cursor.column != indent || cursor.atEnd then some (lines, cursor)
    else do
      let beginsBlank := cursor.head?.any isBlank
      let folds := !literal && lines.lastBreak == ['\n'] && !lines.blankLine && !beginsBlank
      let joint :=
        if !folds then lines.lastBreak
        else if lines.breaks.isEmpty then [' '] else []
      let (line, next) := cursor.takeWhile fun character => !isBreak character
      let (lastBreak, next) := next.takeBreak
      let (breaks, _, next) ← takeBlockBreaks? (some indent) (next.rest.length + 1) 0 next
      takeBlockLines? literal indent fuel
        ⟨lines.text ++ joint ++ lines.breaks ++ line, lastBreak, breaks, beginsBlank⟩ next

/-- A block scalar after its indicator, inside a block of the given indentation. -/
def takeBlock? (literal : Bool) (outer : Int) (cursor : Cursor) :
    Option (List Char × Cursor) := do
  let (chomping, increment, next) ← takeBlockHeader? cursor
  let next ← next.skipToLineEnd?
  let explicit := increment.map fun increment => (max outer 0).toNat + increment
  let (breaks, widest, next) ← takeBlockBreaks? explicit (next.rest.length + 1) 0 next
  let indent := explicit.getD (max (max widest (outer + 1).toNat) 1)
  let (lines, next) ← takeBlockLines? literal indent (next.rest.length + 1)
    ⟨[], [], breaks, false⟩ next
  let tail := match chomping with
    | .strip => []
    | .clip => lines.lastBreak
    | .keep => lines.lastBreak ++ lines.breaks
  some (lines.text ++ tail, next)

end DocumentTypes.Yaml
