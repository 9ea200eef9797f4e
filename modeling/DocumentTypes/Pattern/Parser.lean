import DocumentTypes.Pattern.Syntax
import DocumentTypes.Text.Blank
import DocumentTypes.Text.Hexadecimal
import DocumentTypes.Unicode.Recent

/-! # Reading patterns

A pattern is read from left to right with a stack of open groups; a class is read
with a stack of open brackets. Every reading function takes the text that is left
and returns what it read with the text after it, or nothing when the pattern is
malformed. Where blanks are ignored, they and comments are dropped between tokens,
and after most characters inside a token too. -/

namespace DocumentTypes.Pattern

open Text (hexDigit?)

/-! ## Blanks and comments -/

def dropBlanks (spaced : Bool) (inComment : Bool) : List Char → List Char
  | [] => []
  | character :: rest =>
    if !spaced then character :: rest
    else if inComment then dropBlanks spaced (character != '\n') rest
    else if Text.isBlank character then dropBlanks spaced false rest
    else if character == '#' then dropBlanks spaced true rest
    else character :: rest

def advance (spaced : Bool) (text : List Char) : List Char :=
  dropBlanks spaced false text.tail

/-- The character that follows the current one and its blanks. -/
def peek? (spaced : Bool) (text : List Char) : Option Char :=
  if !spaced then text.tail.head?
  else
    match text.tail.dropWhile Text.isBlank with
    | '#' :: rest => (rest.dropWhile Text.isBlank).head?
    | rest => rest.head?

/-! ## Numbers -/

def countLimit : Nat := Nat.pow 2 32

def takeDigits (spaced : Bool) : Nat → List Char → List Char × List Char
  | 0, text => ([], text)
  | fuel + 1, text =>
    match text with
    | character :: _ =>
      if character.isDigit then
        let (digits, rest) := takeDigits spaced fuel (advance spaced text)
        (character :: digits, rest)
      else ([], text)
    | [] => ([], [])

/-- The outcome of reading a count: the digits may be missing, which some places
allow, or the number may be too large, which none does. -/
def readCount (spaced : Bool) (text : List Char) : Option (Option Nat) × List Char :=
  let start := text.dropWhile Text.isBlank
  let (digits, rest) := takeDigits spaced start.length start
  let rest := dropBlanks spaced false (rest.dropWhile Text.isBlank)
  if digits.isEmpty then (some none, rest)
  else
    let count := Nat.ofDigitChars 10 digits 0
    (if count < countLimit then some (some count) else none, rest)

def charOfCode? (code : Nat) : Option Char :=
  if code.isValidChar then some (Char.ofNat code) else none

/-- Exactly `count` hexadecimal digits, given the accumulated value. -/
def takeHexFixed? (spaced : Bool) : Nat → Nat → List Char → Option (Nat × List Char)
  | 0, value, text => some (value, text)
  | count + 1, value, text =>
    match text with
    | character :: _ => do
      let digit ← hexDigit? character
      takeHexFixed? spaced count (value * 16 + digit) (advance spaced text)
    | [] => none

/-- Hexadecimal digits up to a closing brace, with at least one of them. -/
def takeHexBraced? (spaced : Bool) : Nat → Option Nat → List Char → Option (Nat × List Char)
  | 0, _, _ => none
  | fuel + 1, value, text =>
    match text with
    | '\x7d' :: _ => value.map fun value => (value, advance spaced text)
    | character :: _ => do
      let digit ← hexDigit? character
      takeHexBraced? spaced fuel (some (value.getD 0 * 16 + digit)) (advance spaced text)
    | [] => none

/-- A character by its number, given the text after the letter that announces it. -/
def readHex? (spaced : Bool) (letter : Char) (text : List Char) :
    Option (Literal × List Char) :=
  match text with
  | '\x7b' :: _ => do
    let start := advance spaced text
    let (code, rest) ← takeHexBraced? spaced (start.length + 1) none start
    let character ← charOfCode? code
    some (⟨character, false⟩, rest)
  | _ => do
    let width := if letter == 'x' then 2 else if letter == 'u' then 4 else 8
    let (code, rest) ← takeHexFixed? spaced width 0 text
    let character ← charOfCode? code
    some (⟨character, letter == 'x'⟩, rest)

/-! ## Escapes -/

def splitAtText? (separator : List Char) : List Char → Option (List Char × List Char)
  | [] => none
  | character :: rest =>
    if separator.isPrefixOf (character :: rest) then
      some ([], (character :: rest).drop separator.length)
    else
      (splitAtText? separator rest).map fun (front, back) => (character :: front, back)

def takeBraced? (spaced : Bool) : Nat → List Char → Option (List Char × List Char)
  | 0, _ => none
  | fuel + 1, text =>
    match text with
    | '\x7d' :: rest => some ([], rest)
    | character :: _ =>
      (takeBraced? spaced fuel (advance spaced text)).map fun (name, rest) =>
        (character :: name, rest)
    | [] => none

/-- A property query, and whether its value is written as an exclusion. -/
def propertyQuery (name : List Char) : PropertyQuery × Bool :=
  let valued (pair : List Char × List Char) :=
    PropertyQuery.valued (String.ofList pair.1) (String.ofList pair.2)
  match splitAtText? ['!', '='] name with
  | some pair => (valued pair, true)
  | none =>
    match splitAtText? [':'] name with
    | some pair => (valued pair, false)
    | none =>
      match splitAtText? ['='] name with
      | some pair => (valued pair, false)
      | none => (.named (String.ofList name), false)

def readProperty? (spaced : Bool) (negated : Bool) (text : List Char) :
    Option (Node × List Char) :=
  match text with
  | '\x7b' :: _ => do
    let start := advance spaced text
    let (name, rest) ← takeBraced? spaced (start.length + 1) start
    let (query, excluded) := propertyQuery name
    some (.property query (negated != excluded), rest)
  | '\\' :: _ => none
  | character :: _ =>
    some (.property (.named (String.singleton character)) negated, advance spaced text)
  | [] => none

/-- ASCII characters that are not letters or digits may always be escaped, angle
brackets excepted, which are boundaries. -/
def isEscapable (character : Char) : Bool :=
  character.toNat < 0x80 && !character.isAlphanum && character != '<' && character != '>'

def controlEscape? : Char → Option Char
  | 'a' => some '\x07'
  | 'f' => some '\x0c'
  | 't' => some '\t'
  | 'n' => some '\n'
  | 'r' => some '\r'
  | 'v' => some '\x0b'
  | _ => none

def isBoundaryLetter (character : Char) : Bool := character.isAlpha || character == '-'

def takeBoundaryName (spaced : Bool) : Nat → List Char → List Char × List Char
  | 0, text => ([], text)
  | fuel + 1, text =>
    match text with
    | character :: _ =>
      if isBoundaryLetter character then
        let (name, rest) := takeBoundaryName spaced fuel (advance spaced text)
        (character :: name, rest)
      else ([], text)
    | [] => ([], [])

/-- The boundary after `\b`: a name in braces selects a special one, and a brace
that cannot begin a name is left for a repetition. -/
def readWordBoundary? (spaced : Bool) (text : List Char) : Option (Node × List Char) :=
  match text with
  | '\x7b' :: _ =>
    match advance spaced text with
    | [] => none
    | character :: rest =>
      if !isBoundaryLetter character then some (.boundary .word, text)
      else
        let start := character :: rest
        match takeBoundaryName spaced start.length start with
        | (name, '\x7d' :: rest) =>
          match String.ofList name with
          | "start" => some (.boundary .wordStart, rest)
          | "end" => some (.boundary .wordEnd, rest)
          | "start-half" => some (.boundary .wordStartHalf, rest)
          | "end-half" => some (.boundary .wordEndHalf, rest)
          | _ => none
        | _ => none
  | _ => some (.boundary .word, text)

/-- An escape, given the text after the backslash. Back-references are refused. -/
def readEscape? (spaced : Bool) (text : List Char) : Option (Node × List Char) :=
  match text with
  | [] => none
  | character :: rest =>
    match character with
    | 'x' | 'u' | 'U' =>
      (readHex? spaced character (advance spaced text)).map fun (literal, rest) =>
        (.literal literal, rest)
    | 'p' => readProperty? spaced false (advance spaced text)
    | 'P' => readProperty? spaced true (advance spaced text)
    | 'd' => some (.shorthand .digit false, rest)
    | 's' => some (.shorthand .space false, rest)
    | 'w' => some (.shorthand .word false, rest)
    | 'D' => some (.shorthand .digit true, rest)
    | 'S' => some (.shorthand .space true, rest)
    | 'W' => some (.shorthand .word true, rest)
    | 'A' => some (.boundary .textStart, rest)
    | 'z' => some (.boundary .textEnd, rest)
    | 'B' => some (.boundary .notWord, rest)
    | '<' => some (.boundary .wordStart, rest)
    | '>' => some (.boundary .wordEnd, rest)
    | 'b' => readWordBoundary? spaced rest
    | _ =>
      if isEscapable character then some (.literal ⟨character, false⟩, rest)
      else (controlEscape? character).map fun control => (.literal ⟨control, false⟩, rest)

/-! ## Classes -/

def asciiClass? : String → Option AsciiClass
  | "alnum" => some .alnum
  | "alpha" => some .alpha
  | "ascii" => some .ascii
  | "blank" => some .blank
  | "cntrl" => some .cntrl
  | "digit" => some .digit
  | "graph" => some .graph
  | "lower" => some .lower
  | "print" => some .print
  | "punct" => some .punct
  | "space" => some .space
  | "upper" => some .upper
  | "word" => some .word
  | "xdigit" => some .xdigit
  | _ => none

/-- A named class such as `[:alpha:]`, given the text after its bracket. A text of
another form is no named class, and is then read as a nested bracket. -/
def readAsciiClass? (text : List Char) : Option (ClassSet × List Char) :=
  match text with
  | ':' :: rest =>
    let (negated, rest) := match rest with
      | '^' :: tail => (true, tail)
      | _ => (false, rest)
    let name := rest.takeWhile (· != ':')
    match rest.drop name.length with
    | ':' :: ']' :: rest =>
      (asciiClass? (String.ofList name)).map fun name => (.ascii name negated, rest)
    | _ => none
  | _ => none

def readClassPrimitive? (spaced : Bool) (text : List Char) : Option (Node × List Char) :=
  match text with
  | '\\' :: rest => readEscape? spaced rest
  | character :: rest => some (.literal ⟨character, false⟩, rest)
  | [] => none

def classItem? : Node → Option ClassSet
  | .literal literal => some (.range literal literal)
  | .shorthand name negated => some (.shorthand name negated)
  | .property query negated => some (.property query negated)
  | _ => none

/-- A single item, or a range between two characters. A hyphen before a closing
bracket or before another hyphen does not make a range. -/
def readClassRange? (spaced : Bool) (text : List Char) : Option (ClassSet × List Char) := do
  let (first, rest) ← readClassPrimitive? spaced text
  let rest := dropBlanks spaced false rest
  match rest with
  | [] => none
  | character :: _ =>
    if character != '-' || peek? spaced rest == some ']' || peek? spaced rest == some '-' then
      (classItem? first).map fun item => (item, rest)
    else
      match advance spaced rest with
      | [] => none
      | next =>
        let (last, rest) ← readClassPrimitive? spaced next
        match first, last with
        | .literal low, .literal high =>
          if low.character ≤ high.character then some (.range low high, rest) else none
        | _, _ => none

/-- An open bracket: whether it is negated, its items so far, newest first, and an
operator that waits for its right operand. -/
structure OpenClass where
  negated : Bool
  items : List ClassSet
  waiting : Option (SetOperation × ClassSet)

def OpenClass.add (level : OpenClass) (item : ClassSet) : OpenClass :=
  { level with items := item :: level.items }

def unionOf (items : List ClassSet) : ClassSet :=
  match items with
  | [item] => item
  | _ => .union items.reverse

/-- The items so far as one set, combined with the operand before them. -/
def OpenClass.content (level : OpenClass) : ClassSet :=
  match level.waiting with
  | some (operation, left) => .operation operation left (unionOf level.items)
  | none => unionOf level.items

def OpenClass.operate (level : OpenClass) (operation : SetOperation) : OpenClass :=
  { level with items := [], waiting := some (operation, level.content) }

def hyphen : ClassSet := .range ⟨'-', false⟩ ⟨'-', false⟩
def closingBracket : ClassSet := .range ⟨']', false⟩ ⟨']', false⟩

def takeHyphens (spaced : Bool) : Nat → OpenClass → List Char → OpenClass × List Char
  | 0, level, text => (level, text)
  | fuel + 1, level, text =>
    match text with
    | '-' :: _ => takeHyphens spaced fuel (level.add hyphen) (advance spaced text)
    | _ => (level, text)

/-- Open a class, given the text from its bracket on. A closing bracket in first
place stands for itself. -/
def openClass? (spaced : Bool) (text : List Char) : Option (OpenClass × List Char) :=
  let start := advance spaced text
  let (negated, start) := match start with
    | '^' :: _ => (true, advance spaced start)
    | _ => (false, start)
  let (level, rest) := takeHyphens spaced start.length ⟨negated, [], none⟩ start
  match rest with
  | [] => none
  | ']' :: _ =>
    if level.items.isEmpty then
      match advance spaced rest with
      | [] => none
      | rest => some (level.add closingBracket, rest)
    else some (level, rest)
  | _ => some (level, rest)

def readClassLevels? (spaced : Bool) :
    Nat → OpenClass → List OpenClass → List Char → Option (Node × List Char)
  | 0, _, _, _ => none
  | fuel + 1, level, outer, text =>
    let text := dropBlanks spaced false text
    match text with
    | [] => none
    | '[' :: rest =>
      match readAsciiClass? rest with
      | some (item, rest) => readClassLevels? spaced fuel (level.add item) outer rest
      | none => do
        let (inner, rest) ← openClass? spaced text
        readClassLevels? spaced fuel inner (level :: outer) rest
    | ']' :: rest =>
      match outer with
      | [] => some (.bracketed level.negated level.content, rest)
      | parent :: outer =>
        readClassLevels? spaced fuel
          (parent.add (.bracketed level.negated level.content)) outer rest
    | '&' :: '&' :: rest =>
      readClassLevels? spaced fuel (level.operate .intersection) outer rest
    | '-' :: '-' :: rest =>
      readClassLevels? spaced fuel (level.operate .difference) outer rest
    | '~' :: '~' :: rest =>
      readClassLevels? spaced fuel (level.operate .symmetricDifference) outer rest
    | _ => do
      let (item, rest) ← readClassRange? spaced text
      readClassLevels? spaced fuel (level.add item) outer rest

def readClass? (spaced : Bool) (text : List Char) : Option (Node × List Char) := do
  let (level, rest) ← openClass? spaced text
  readClassLevels? spaced (rest.length + 1) level [] rest

/-! ## Groups -/

def flag? : Char → Option Flag
  | 'i' => some .caseInsensitive
  | 'm' => some .multiLine
  | 's' => some .dotMatchesNewline
  | 'U' => some .swapGreed
  | 'u' => some .unicode
  | 'R' => some .carriageReturn
  | 'x' => some .ignoreBlanks
  | _ => none

/-- Flags up to a colon or a closing parenthesis, which is returned too. Each flag
and the minus sign may appear once, and the minus sign not last. -/
def readFlags? (negated dangling : Bool) (changes : FlagChanges) :
    List Char → Option (FlagChanges × Char × List Char)
  | [] => none
  | character :: rest =>
    if character == ':' || character == ')' then
      if dangling then none else some (changes.reverse, character, rest)
    else if character == '-' then
      if negated then none else readFlags? true true changes rest
    else
      match flag? character with
      | none => none
      | some flag =>
        if changes.any fun change => change.1 == flag then none
        else readFlags? negated false ((flag, !negated) :: changes) rest

def isNameStart (character : Char) : Bool :=
  character == '_' || Unicode.Recent.alphabetic.contains character.toNat

def isNameRest (character : Char) : Bool :=
  character == '_' || character == '.' || character == '[' || character == ']' ||
    Unicode.Recent.alphanumeric.contains character.toNat

def readGroupName? (text : List Char) : Option (String × List Char) :=
  let name := text.takeWhile (· != '>')
  match name, text.drop name.length with
  | first :: others, '>' :: rest =>
    if isNameStart first && others.all isNameRest then some (String.ofList name, rest) else none
  | _, _ => none

/-- What an opening parenthesis begins. A group with flags or a bare question mark does
not capture. -/
inductive Opening
  | switches (changes : FlagChanges)
  | capturing (name : Option String)
  | plain (changes : FlagChanges)

/-- The beginning of a group, given the text after the parenthesis. Looking around
is refused. -/
def readOpening? (spaced : Bool) (text : List Char) : Option (Opening × List Char) :=
  let text := dropBlanks spaced false text
  match text with
  | '?' :: '=' :: _ | '?' :: '!' :: _ | '?' :: '<' :: '=' :: _ | '?' :: '<' :: '!' :: _ => none
  | '?' :: 'P' :: '<' :: rest | '?' :: '<' :: rest => do
    let (name, rest) ← readGroupName? rest
    some (.capturing (some name), rest)
  | '?' :: rest => do
    let (changes, stop, rest) ← readFlags? false false [] rest
    if stop == ')' then
      if changes.isEmpty then none else some (.switches changes, rest)
    else some (.plain changes, rest)
  | _ => some (.capturing none, text)

/-! ## The whole pattern -/

def sequenceOf (nodes : List Node) : Node :=
  match nodes with
  | [] => .empty
  | [node] => node
  | _ => .concatenation nodes.reverse

/-- The branches of a group and the nodes of its last branch, both newest first. -/
structure OpenBranches where
  branches : List Node
  nodes : List Node

namespace OpenBranches

def start : OpenBranches := ⟨[], []⟩

def add (level : OpenBranches) (node : Node) : OpenBranches :=
  { level with nodes := node :: level.nodes }

def alternate (level : OpenBranches) : OpenBranches :=
  ⟨sequenceOf level.nodes :: level.branches, []⟩

def close (level : OpenBranches) : Node :=
  match level.branches with
  | [] => sequenceOf level.nodes
  | branches => .alternation (sequenceOf level.nodes :: branches).reverse

/-- Put a repetition around the last node. There must be one, and switches cannot
be repeated. -/
def repeatLast? (level : OpenBranches) (least : Nat) (most : Option Nat) :
    Option OpenBranches :=
  match level.nodes with
  | [] | .flags _ :: _ => none
  | node :: nodes => some { level with nodes := .repeated least most node :: nodes }

end OpenBranches

/-- A group that waits for its closing parenthesis: whether it captures, its flags,
whether blanks were ignored around it, and what came before it. -/
structure OpenGroup where
  captures : Bool
  changes : FlagChanges
  spaced : Bool
  before : OpenBranches

structure Reading where
  level : OpenBranches
  groups : List OpenGroup
  names : List String
  spaced : Bool

def ignoresBlanks (changes : FlagChanges) (otherwise : Bool) : Bool :=
  (changes.find? fun change => change.1 == .ignoreBlanks).elim otherwise Prod.snd

/-- A lazy repetition accepts the same texts; its mark is stepped over. -/
def dropLazyMark : List Char → List Char
  | '?' :: rest => rest
  | text => text

def readCounts? (spaced : Bool) (text : List Char) :
    Option (Nat × Option Nat × List Char) := do
  let (least, rest) := readCount spaced (advance spaced text)
  let (least, most, rest) ← match rest with
    | ',' :: _ =>
      match advance spaced rest with
      | '\x7d' :: tail => do
        let least ← least
        some (← least, none, '\x7d' :: tail)
      | next => do
        let least ← least
        let (most, rest) := readCount spaced next
        let most ← most
        some (← least, some (← most), rest)
    | _ => do
      let least ← least
      let count ← least
      some (count, some count, rest)
  match rest with
  | '\x7d' :: _ =>
    if most.all (least ≤ ·) then some (least, most, dropLazyMark (advance spaced rest)) else none
  | _ => none

def Reading.step? (reading : Reading) (text : List Char) : Option (Reading × List Char) :=
  let spaced := reading.spaced
  let add (piece : Node × List Char) : Reading × List Char :=
    ({ reading with level := reading.level.add piece.1 }, piece.2)
  let repeated (least : Nat) (most : Option Nat) (rest : List Char) :=
    (reading.level.repeatLast? least most).map fun level => ({ reading with level }, rest)
  match text with
  | [] => none
  | '(' :: rest => do
    let (opening, rest) ← readOpening? spaced rest
    match opening with
    | .switches changes =>
      some ({ reading with
        level := reading.level.add (.flags changes)
        spaced := ignoresBlanks changes spaced }, rest)
    | .capturing name =>
      if name.any reading.names.contains then none
      else some (
        { reading with
          level := .start
          groups := ⟨true, [], spaced, reading.level⟩ :: reading.groups
          names := name.toList ++ reading.names }, rest)
    | .plain changes =>
      some (
        { reading with
          level := .start
          groups := ⟨false, changes, spaced, reading.level⟩ :: reading.groups
          spaced := ignoresBlanks changes spaced }, rest)
  | ')' :: rest =>
    match reading.groups with
    | [] => none
    | group :: groups =>
      some ({ reading with
        level := group.before.add (.group group.captures group.changes reading.level.close)
        groups
        spaced := group.spaced }, rest)
  | '|' :: rest => some ({ reading with level := reading.level.alternate }, rest)
  | '[' :: _ => (readClass? spaced text).map add
  | '?' :: rest => repeated 0 (some 1) (dropLazyMark rest)
  | '*' :: rest => repeated 0 none (dropLazyMark rest)
  | '+' :: rest => repeated 1 none (dropLazyMark rest)
  | '\x7b' :: _ => do
    let (least, most, rest) ← readCounts? spaced text
    repeated least most rest
  | '\\' :: rest => (readEscape? spaced rest).map add
  | '.' :: rest => some (add (.dot, rest))
  | '^' :: rest => some (add (.boundary .lineStart, rest))
  | '$' :: rest => some (add (.boundary .lineEnd, rest))
  | character :: rest => some (add (.literal ⟨character, false⟩, rest))

def Reading.run? : Nat → Reading → List Char → Option Node
  | 0, _, _ => none
  | fuel + 1, reading, text =>
    match dropBlanks reading.spaced false text with
    | [] => if reading.groups.isEmpty then some reading.level.close else none
    | text => do
      let (reading, rest) ← reading.step? text
      Reading.run? fuel reading rest

def depthLimit : Nat := 250

/-- Read a pattern. Every step uses up at least one character. -/
def Node.ofText? (text : String) : Option Node := do
  let characters := text.toList
  let node ← Reading.run? (characters.length + 1) ⟨.start, [], [], false⟩ characters
  if node.depth ≤ depthLimit then some node else none

end DocumentTypes.Pattern
