import DocumentTypes.Number.Decimal
import DocumentTypes.Yaml.Scalar

/-! # Tokens

A stream is cut into tokens. Indentation is turned into explicit starts and ends of
blocks. A mapping key is recognised only at the colon after it, so a place where a
key may have begun is remembered until the colon, the end of the line, or too great
a distance; the tokens that announce the key are then put in front of it. -/

namespace DocumentTypes.Yaml

inductive ScalarStyle
  | plain
  | singleQuoted
  | doubleQuoted
  | literal
  | folded
  deriving DecidableEq, Repr

/-- A tag as bytes. It is written in ASCII with escaped bytes, which need not be the
encoding of a text. -/
abbrev TagBytes := List UInt8

inductive Token
  | versionDirective (major minor : Nat)
  | tagDirective (handle : String) (leading : TagBytes)
  | documentStart
  | documentEnd
  | blockSequenceStart
  | blockMappingStart
  | blockEnd
  | flowSequenceStart
  | flowSequenceEnd
  | flowMappingStart
  | flowMappingEnd
  | blockEntry
  | flowEntry
  | key
  | value
  | reference (name : String)
  | anchor (name : String)
  | tag (handle : String) (suffix : TagBytes)
  | scalar (text : String) (style : ScalarStyle)
  deriving DecidableEq, Repr

/-! ## Tags and directives -/

def announcedWidth? (byte : UInt8) : Option Nat :=
  if byte &&& 0x80 == 0 then some 1
  else if byte &&& 0xe0 == 0xc0 then some 2
  else if byte &&& 0xf0 == 0xe0 then some 3
  else if byte &&& 0xf8 == 0xf0 then some 4
  else none

def isContinuation (byte : UInt8) : Bool := byte &&& 0xc0 == 0x80

/-- A byte written as a percent sign and two hexadecimal digits. -/
def takeEscapedByte? (cursor : Cursor) : Option (UInt8 × Cursor) :=
  match cursor.rest with
  | '%' :: high :: low :: _ =>
    (hexNumber? [high, low]).map fun byte => (UInt8.ofNat byte, cursor.skip 3)
  | _ => none

def takeContinuations? : Nat → Cursor → Option (TagBytes × Cursor)
  | 0, cursor => some ([], cursor)
  | count + 1, cursor => do
    let (byte, next) ← takeEscapedByte? cursor
    if isContinuation byte then
      let (bytes, after) ← takeContinuations? count next
      some (byte :: bytes, after)
    else none

/-- A character written as escaped bytes. Only the number of its bytes is checked and
that they continue it, so the bytes may spell no character at all. -/
def takeEscapedCharacter? (cursor : Cursor) : Option (TagBytes × Cursor) := do
  let (first, next) ← takeEscapedByte? cursor
  let width ← announcedWidth? first
  let (bytes, after) ← takeContinuations? (width - 1) next
  some (first :: bytes, after)

def isTagCharacter (verbatim : Bool) (character : Char) : Bool :=
  isWordCharacter character || ";/?:@&=+$.%!~*'()".contains character ||
    (verbatim && ",[]".contains character)

def takeTagCharacters? (verbatim : Bool) : Nat → Cursor → Option (TagBytes × Cursor)
  | 0, _ => none
  | fuel + 1, cursor =>
    match cursor.head? with
    | some '%' => do
      let (bytes, next) ← takeEscapedCharacter? cursor
      let (rest, after) ← takeTagCharacters? verbatim fuel next
      some (bytes ++ rest, after)
    | some character =>
      if isTagCharacter verbatim character then
        (takeTagCharacters? verbatim fuel (cursor.skip 1)).map fun (rest, after) =>
          (character.toUInt8 :: rest, after)
      else some ([], cursor)
    | none => some ([], cursor)

def takeTagBytes? (verbatim : Bool) (cursor : Cursor) : Option (TagBytes × Cursor) :=
  takeTagCharacters? verbatim (cursor.rest.length + 1) cursor

def significant (bytes : TagBytes) : TagBytes := bytes.takeWhile (· != 0)

def asciiBytes (characters : List Char) : TagBytes := characters.map Char.toUInt8

/-- An exclamation mark, a word, and a second mark if it follows. -/
def takeTagHandle? (cursor : Cursor) : Option (List Char × Cursor) :=
  if !cursor.looksAt ['!'] then none
  else
    let (word, next) := (cursor.skip 1).takeWhile isWordCharacter
    if next.looksAt ['!'] then some ('!' :: word ++ ['!'], next.skip 1)
    else some ('!' :: word, next)

/-- The handle and the suffix of a tag: verbatim in angle brackets, behind a handle
between two marks, or behind a single mark. A lone mark has no handle. -/
def takeTagParts? (cursor : Cursor) : Option (List Char × TagBytes × Cursor) :=
  if cursor.looksAt ['!', '<'] then do
    let (suffix, next) ← takeTagBytes? true (cursor.skip 2)
    if suffix.isEmpty || !next.looksAt ['>'] then none
    else some ([], significant suffix, next.skip 1)
  else do
    let (handle, next) ← takeTagHandle? cursor
    if handle.length > 1 && handle.getLast? == some '!' then
      let (suffix, next) ← takeTagBytes? false next
      if suffix.isEmpty then none else some (handle, significant suffix, next)
    else
      let (rest, next) ← takeTagBytes? false next
      match significant (asciiBytes handle.tail ++ rest) with
      | [] => some ([], asciiBytes ['!'], next)
      | suffix => some (['!'], suffix, next)

def takeTag? (inFlow : Bool) (cursor : Cursor) : Option (Token × Cursor) := do
  let (handle, suffix, next) ← takeTagParts? cursor
  if next.separatedAt 0 || (inFlow && next.looksAt [',']) then
    some (.tag (String.ofList handle) suffix, next)
  else none

def takeVersionNumber? (cursor : Cursor) : Option (Nat × Cursor) := do
  let (digits, next) := cursor.takeWhile Char.isDigit
  if digits.length > 9 then none
  else
    let number ← Decimal.readDigits? digits
    some (number, next)

/-- A directive after its percent sign, with the rest of its line. -/
def takeDirective? (cursor : Cursor) : Option (Token × Cursor) := do
  let (name, next) := cursor.takeWhile isWordCharacter
  if !next.separatedAt 0 then none
  else
    let next := next.skipWhile isBlank
    let (token, next) ← match String.ofList name with
      | "YAML" => do
        let (major, next) ← takeVersionNumber? next
        if !next.looksAt ['.'] then none
        else
          let (minor, next) ← takeVersionNumber? (next.skip 1)
          some (Token.versionDirective major minor, next)
      | "TAG" => do
        let (handle, next) ← takeTagHandle? next
        if handle.length > 1 && handle.getLast? != some '!' then none
        else if !next.holdsAt 0 isBlank then none
        else
          let (leading, next) ← takeTagBytes? true (next.skipWhile isBlank)
          if leading.isEmpty || !next.separatedAt 0 then none
          else some (Token.tagDirective (String.ofList handle) (significant leading), next)
      | _ => none
    let next ← next.skipToLineEnd?
    some (token, next)

/-- The name of an anchor or an alias, which has to end where a word ends. -/
def takeAnchorName? (cursor : Cursor) : Option (String × Cursor) :=
  let (name, next) := cursor.takeWhile isWordCharacter
  if name.isEmpty then none
  else if next.separatedAt 0 || next.holdsAt 0 (fun character => "?:,]\x7d%@`".contains character)
  then some (String.ofList name, next)
  else none

/-! ## Scanning -/

/-- A place where a mapping key may have begun: the number of tokens before it, and
whether it has to be a key because it stands at the indentation of its block. -/
structure KeyCandidate where
  tokens : Nat
  cursor : Cursor
  required : Bool

structure Scanner where
  cursor : Cursor
  tokens : Array Token
  indent : Int
  outerIndents : List Int
  /-- The candidate of the innermost bracket, and those of the brackets around it. -/
  candidate : Option KeyCandidate
  outerCandidates : List (Option KeyCandidate)
  keyAllowed : Bool

namespace Scanner

def start (text : List Char) : Scanner where
  cursor := Cursor.start text
  tokens := #[]
  indent := -1
  outerIndents := []
  candidate := none
  outerCandidates := []
  keyAllowed := true

def inFlow (scanner : Scanner) : Bool := !scanner.outerCandidates.isEmpty

def emit (scanner : Scanner) (token : Token) : Scanner :=
  { scanner with tokens := scanner.tokens.push token }

def emitOver (scanner : Scanner) (token : Token) (count : Nat) : Scanner :=
  { scanner with
    tokens := scanner.tokens.push token
    cursor := scanner.cursor.skip count }

def emitAt (scanner : Scanner) (token : Token) (cursor : Cursor) : Scanner :=
  { scanner with tokens := scanner.tokens.push token, cursor }

/-! ### Keys -/

def isStale (cursor : Cursor) (candidate : KeyCandidate) : Bool :=
  candidate.cursor.line < cursor.line || candidate.cursor.offset + 1024 < cursor.offset

/-- A candidate that lies too far back is given up, which a required one may not
be. -/
def refresh? (cursor : Cursor) : Option KeyCandidate → Option (Option KeyCandidate)
  | none => some none
  | some candidate =>
    if isStale cursor candidate then
      if candidate.required then none else some none
    else some (some candidate)

def dropStale? (scanner : Scanner) : Option Scanner := do
  let candidate ← refresh? scanner.cursor scanner.candidate
  let outerCandidates ← scanner.outerCandidates.mapM (refresh? scanner.cursor)
  some { scanner with candidate, outerCandidates }

def forgetKey? (scanner : Scanner) : Option Scanner :=
  if scanner.candidate.any (·.required) then none
  else some { scanner with candidate := none }

def rememberKey? (scanner : Scanner) : Option Scanner :=
  if !scanner.keyAllowed then some scanner
  else do
    let scanner ← scanner.forgetKey?
    some { scanner with candidate := some {
      tokens := scanner.tokens.size
      cursor := scanner.cursor
      required := !scanner.inFlow && scanner.indent == scanner.cursor.column } }

def allowKey (scanner : Scanner) (allowed : Bool) : Scanner :=
  { scanner with keyAllowed := allowed }

/-! ### Indentation -/

/-- Open a block at a column deeper than the present one. Its start goes to a place
among the tokens. -/
def indentTo (scanner : Scanner) (column : Nat) (place : Nat) (token : Token) : Scanner :=
  if !scanner.inFlow && scanner.indent < column then
    { scanner with
      indent := column
      outerIndents := scanner.indent :: scanner.outerIndents
      tokens := scanner.tokens.insertIdxIfInBounds place token }
  else scanner

def closeBlocks (column : Int) : Nat → Scanner → Scanner
  | 0, scanner => scanner
  | fuel + 1, scanner =>
    if column < scanner.indent then
      closeBlocks column fuel
        { scanner.emit .blockEnd with
          indent := scanner.outerIndents.headD (-1)
          outerIndents := scanner.outerIndents.tail }
    else scanner

def dedentTo (scanner : Scanner) (column : Int) : Scanner :=
  if scanner.inFlow then scanner
  else closeBlocks column (scanner.outerIndents.length + 1) scanner

/-! ### Tokens -/

/-- Step over blanks, comments and line breaks. Outside brackets a tab is a blank
only where no key can begin, and a line break makes room for a key. A mark of the
byte order may begin a line and indents it by one column. -/
def skipToToken : Nat → Scanner → Scanner
  | 0, scanner => scanner
  | fuel + 1, scanner =>
    let tabs := scanner.inFlow || !scanner.keyAllowed
    let cursor := scanner.cursor.skipByteOrderMark.skipWhile fun character =>
      character == ' ' || (tabs && character == '\t')
    let cursor :=
      if cursor.looksAt ['#'] then cursor.skipWhile fun character => !isBreak character
      else cursor
    if cursor.head?.any isBreak then
      skipToToken fuel
        { scanner with
          cursor := cursor.skipBreak
          keyAllowed := scanner.keyAllowed || !scanner.inFlow }
    else { scanner with cursor }

def endOfStream? (scanner : Scanner) : Option Scanner := (scanner.dedentTo (-1)).forgetKey?

def directive? (scanner : Scanner) : Option Scanner := do
  let scanner ← (scanner.dedentTo (-1)).forgetKey?
  let (token, next) ← takeDirective? (scanner.cursor.skip 1)
  some ((scanner.allowKey false).emitAt token next)

def documentMark? (scanner : Scanner) (token : Token) : Option Scanner := do
  let scanner ← (scanner.dedentTo (-1)).forgetKey?
  some ((scanner.allowKey false).emitOver token 3)

def openFlow? (scanner : Scanner) (token : Token) : Option Scanner := do
  let scanner ← scanner.rememberKey?
  let scanner := { scanner with
    candidate := none
    outerCandidates := scanner.candidate :: scanner.outerCandidates }
  some ((scanner.allowKey true).emitOver token 1)

def closeFlow? (scanner : Scanner) (token : Token) : Option Scanner := do
  let scanner ← scanner.forgetKey?
  let scanner := match scanner.outerCandidates with
    | outer :: outerCandidates => { scanner with candidate := outer, outerCandidates }
    | [] => scanner
  some ((scanner.allowKey false).emitOver token 1)

def flowEntry? (scanner : Scanner) : Option Scanner := do
  let scanner ← scanner.forgetKey?
  some ((scanner.allowKey true).emitOver .flowEntry 1)

def openBlock? (scanner : Scanner) (token : Token) : Option Scanner :=
  if scanner.inFlow then some scanner
  else if !scanner.keyAllowed then none
  else some (scanner.indentTo scanner.cursor.column scanner.tokens.size token)

def blockEntry? (scanner : Scanner) : Option Scanner := do
  let scanner ← scanner.openBlock? .blockSequenceStart
  let scanner ← scanner.forgetKey?
  some ((scanner.allowKey true).emitOver .blockEntry 1)

def key? (scanner : Scanner) : Option Scanner := do
  let scanner ← scanner.openBlock? .blockMappingStart
  let scanner ← scanner.forgetKey?
  some ((scanner.allowKey (!scanner.inFlow)).emitOver .key 1)

def value? (scanner : Scanner) : Option Scanner :=
  match scanner.candidate with
  | some candidate =>
    let scanner := { scanner with
      tokens := scanner.tokens.insertIdxIfInBounds candidate.tokens .key
      candidate := none }
    let scanner :=
      scanner.indentTo candidate.cursor.column candidate.tokens .blockMappingStart
    some ((scanner.allowKey false).emitOver .value 1)
  | none => do
    let scanner ← scanner.openBlock? .blockMappingStart
    some ((scanner.allowKey (!scanner.inFlow)).emitOver .value 1)

def anchor? (scanner : Scanner) (token : String → Token) : Option Scanner := do
  let scanner ← scanner.rememberKey?
  let (name, next) ← takeAnchorName? (scanner.cursor.skip 1)
  some ((scanner.allowKey false).emitAt (token name) next)

def tag? (scanner : Scanner) : Option Scanner := do
  let scanner ← scanner.rememberKey?
  let (token, next) ← takeTag? scanner.inFlow scanner.cursor
  some ((scanner.allowKey false).emitAt token next)

def blockScalar? (scanner : Scanner) (literal : Bool) : Option Scanner := do
  let scanner ← scanner.forgetKey?
  let (text, next) ← takeBlock? literal scanner.indent (scanner.cursor.skip 1)
  let style := if literal then ScalarStyle.literal else .folded
  some ((scanner.allowKey true).emitAt (.scalar (String.ofList text) style) next)

def quotedScalar? (scanner : Scanner) (single : Bool) : Option Scanner := do
  let scanner ← scanner.rememberKey?
  let cursor := scanner.cursor.skip 1
  let (text, next) ← takeQuoted? single (cursor.rest.length + 1) cursor
  let style := if single then ScalarStyle.singleQuoted else .doubleQuoted
  some ((scanner.allowKey false).emitAt (.scalar (String.ofList text) style) next)

def plainScalar? (scanner : Scanner) : Option Scanner := do
  let scanner ← scanner.rememberKey?
  let (text, broken, next) ← takePlain? scanner.inFlow (scanner.indent + 1).toNat
    (scanner.cursor.rest.length + 1) [] .none scanner.cursor
  some ((scanner.allowKey broken).emitAt (.scalar (String.ofList text) .plain) next)

/-- Whether a plain scalar can begin here: not with an indicator, except that a
hyphen, a question mark or a colon may begin one when something is joined to it. -/
def plainBegins (scanner : Scanner) : Bool :=
  match scanner.cursor.head? with
  | none => false
  | some character =>
    if character == '-' then !scanner.cursor.holdsAt 1 isBlank
    else if character == '?' || character == ':' then
      !scanner.inFlow && !scanner.cursor.separatedAt 1
    else !(isBlank character || isBreak character ||
      ",[]\x7b\x7d#&*!|>'\"%@`".contains character)

/-- Read the token that begins here, with all that it implies. -/
def next? (scanner : Scanner) : Option Scanner :=
  let cursor := scanner.cursor
  if cursor.column == 0 && cursor.looksAt ['%'] then scanner.directive?
  else if cursor.atDocumentMark then
    scanner.documentMark? (if cursor.looksAt ['-'] then .documentStart else .documentEnd)
  else
    match cursor.head? with
    | some '[' => scanner.openFlow? .flowSequenceStart
    | some '\x7b' => scanner.openFlow? .flowMappingStart
    | some ']' => scanner.closeFlow? .flowSequenceEnd
    | some '\x7d' => scanner.closeFlow? .flowMappingEnd
    | some ',' => scanner.flowEntry?
    | some '*' => scanner.anchor? .reference
    | some '&' => scanner.anchor? .anchor
    | some '!' => scanner.tag?
    | some '\'' => scanner.quotedScalar? true
    | some '"' => scanner.quotedScalar? false
    | some character =>
      let separated := cursor.separatedAt 1
      if character == '-' && separated then scanner.blockEntry?
      else if character == '?' && (scanner.inFlow || separated) then scanner.key?
      else if character == ':' && (scanner.inFlow || separated) then scanner.value?
      else if character == '|' && !scanner.inFlow then scanner.blockScalar? true
      else if character == '>' && !scanner.inFlow then scanner.blockScalar? false
      else if scanner.plainBegins then scanner.plainScalar?
      else none
    | none => none

def run? : Nat → Scanner → Option Scanner
  | 0, _ => none
  | fuel + 1, scanner => do
    let scanner ← (skipToToken (scanner.cursor.rest.length + 1) scanner).dropStale?
    let scanner := scanner.dedentTo scanner.cursor.column
    if scanner.cursor.atEnd then scanner.endOfStream?
    else run? fuel (← scanner.next?)

end Scanner

/-- The tokens of a stream. Every token uses up at least one character. -/
def Token.ofText? (text : String) : Option (List Token) :=
  let characters := text.toList
  if !characters.all isAdmitted then none
  else
    (Scanner.run? (characters.length + 1) (Scanner.start characters)).map fun scanner =>
      scanner.tokens.toList

end DocumentTypes.Yaml
