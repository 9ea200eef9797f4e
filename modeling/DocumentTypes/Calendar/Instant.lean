import DocumentTypes.Calendar.Day
import DocumentTypes.Number.Decimal
import DocumentTypes.Text.Blank

/-! # Instants and their text

An instant is a count of seconds since 1970-01-01T00:00:00Z and a count of
nanoseconds. A leap second has no number of its own: it is the second before it,
with a thousand million nanoseconds or more. It may follow any second, though texts
can only say that it ends a minute. -/

namespace DocumentTypes.Calendar

/-- Midnight that opens the first represented day, and the second that closes the
last one. -/
def firstSecond : Int := Day.toNumber ⟨Day.firstYear, 1, 1⟩ * 86400
def lastSecond : Int := Day.toNumber ⟨Day.lastYear, 12, 31⟩ * 86400 + 86399

example : firstSecond = -8334601228800 := by decide
example : lastSecond = 8210266876799 := by decide

/-- Whether seconds and nanoseconds name an instant, on a leap second or not. -/
def isInstant (seconds : Int) (nanos : Nat) : Bool :=
  firstSecond ≤ seconds && seconds ≤ lastSecond && nanos < 2000000000

/-- A represented instant of universal time. -/
structure Instant where
  seconds : Int
  nanos : Nat
  valid : isInstant seconds nanos = true
  deriving DecidableEq

namespace Instant

def ofParts? (seconds : Int) (nanos : Nat) : Option Instant :=
  if valid : isInstant seconds nanos = true then some ⟨seconds, nanos, valid⟩ else none

def ofMillis? (millis : Int) : Option Instant :=
  ofParts? (millis / 1000) ((millis % 1000).toNat * 1000000)

/-- A clock reading on a day, some minutes east of universal time. Second 60 is the
leap second after second 59. -/
def ofClock? (date : Day) (hour minute second nanos : Nat) (offset : Int) : Option Instant :=
  let leap := second == 60
  let clock : Int := hour * 3600 + minute * 60 + (if leap then 59 else second : Nat)
  if date.isValid && hour < 24 && minute < 60 && second ≤ 60 then
    ofParts? (date.toNumber * 86400 + clock - offset * 60)
      (if leap then nanos + 1000000000 else nanos)
  else none

/-! ## Writing -/

def padded (width value : Nat) : String :=
  let digits := Nat.toDigits 10 value
  String.ofList (List.replicate (width - digits.length) '0' ++ digits)

def writeYear (year : Int) : String :=
  if 0 ≤ year && year ≤ 9999 then padded 4 year.natAbs
  else (if year < 0 then "-" else "+") ++ padded 4 year.natAbs

/-- The fraction in thousandths, millionths or thousand-millionths, whichever is
the coarsest that is exact. -/
def writeFraction (nanos : Nat) : String :=
  if nanos = 0 then ""
  else if nanos % 1000000 = 0 then "." ++ padded 3 (nanos / 1000000)
  else if nanos % 1000 = 0 then "." ++ padded 6 (nanos / 1000)
  else "." ++ padded 9 nanos

/-- A leap second is written as the second after the one that it follows. -/
def write (instant : Instant) : String :=
  let date := Day.ofNumber (instant.seconds / 86400)
  let clock := (instant.seconds % 86400).toNat
  let leap := 1000000000 ≤ instant.nanos
  let second := clock % 60 + (if leap then 1 else 0)
  writeYear date.year ++ "-" ++ padded 2 date.month ++ "-" ++ padded 2 date.day ++ "T" ++
    padded 2 (clock / 3600) ++ ":" ++ padded 2 (clock / 60 % 60) ++ ":" ++ padded 2 second ++
    writeFraction (instant.nanos % 1000000000) ++ "Z"

/-! ## Reading

A full timestamp has fixed widths and ends with an offset. A bare date is more
liberal about widths and admits blanks before each of its numbers; it means
midnight. -/

/-- A number of at least one and at most `most` digits, and the text after it. -/
def takeNumber? (most : Nat) (text : List Char) : Option (Nat × List Char) :=
  let digits := (text.take most).takeWhile Char.isDigit
  if digits.isEmpty then none
  else some (Nat.ofDigitChars 10 digits 0, text.drop digits.length)

def takeFixed? (width : Nat) (text : List Char) : Option (Nat × List Char) :=
  let digits := text.take width
  if digits.length == width && digits.all Char.isDigit then
    some (Nat.ofDigitChars 10 digits 0, text.drop width)
  else none

def takeChar? (expected : Char) : List Char → Option (List Char)
  | character :: rest => if character == expected then some rest else none
  | [] => none

/-- A fraction of a second in nanoseconds; places after the ninth are dropped. -/
def takeFraction? (text : List Char) : Option (Nat × List Char) :=
  match text with
  | '.' :: rest =>
    let places := rest.takeWhile Char.isDigit
    if places.isEmpty then none
    else
      let kept := places.take 9
      some (Nat.ofDigitChars 10 kept 0 * Nat.pow 10 (9 - kept.length), rest.drop places.length)
  | _ => some (0, text)

/-- Minutes east of universal time, up to the end of the text. -/
def readOffset? (text : List Char) : Option Int :=
  match text with
  | ['Z'] | ['z'] => some 0
  | sign :: rest => do
    let direction : Int ←
      if sign == '+' then some 1
      else if sign == '-' || sign == '\u2212' then some (-1)
      else none
    let (hours, rest) ← takeFixed? 2 rest
    let rest ← takeChar? ':' rest
    let (minutes, rest) ← takeFixed? 2 rest
    if rest.isEmpty && hours ≤ 23 && minutes ≤ 59 then
      some (direction * (hours * 60 + minutes : Nat))
    else none
  | [] => none

def readTimestamp? (text : List Char) : Option Instant := do
  let (year, rest) ← takeFixed? 4 text
  let rest ← takeChar? '-' rest
  let (month, rest) ← takeFixed? 2 rest
  let rest ← takeChar? '-' rest
  let (day, rest) ← takeFixed? 2 rest
  let rest ← takeChar? 'T' rest <|> takeChar? 't' rest <|> takeChar? ' ' rest
  let (hour, rest) ← takeFixed? 2 rest
  let rest ← takeChar? ':' rest
  let (minute, rest) ← takeFixed? 2 rest
  let rest ← takeChar? ':' rest
  let (second, rest) ← takeFixed? 2 rest
  let (nanos, rest) ← takeFraction? rest
  let offset ← readOffset? rest
  ofClock? ⟨year, month, day⟩ hour minute second nanos offset

/-- A year of up to four digits, or of any length after a sign. -/
def takeYear? (text : List Char) : Option (Int × List Char) :=
  match text.dropWhile Text.isBlank with
  | '-' :: rest => (takeNumber? rest.length rest).map fun (year, rest) => (-(year : Int), rest)
  | '+' :: rest => (takeNumber? rest.length rest).map fun (year, rest) => ((year : Int), rest)
  | rest => (takeNumber? 4 rest).map fun (year, rest) => ((year : Int), rest)

def readDay? (text : List Char) : Option Instant := do
  let (year, rest) ← takeYear? text
  let rest ← takeChar? '-' rest
  let (month, rest) ← takeNumber? 2 (rest.dropWhile Text.isBlank)
  let rest ← takeChar? '-' rest
  let (day, rest) ← takeNumber? 2 (rest.dropWhile Text.isBlank)
  if rest.isEmpty then ofClock? ⟨year, month, day⟩ 0 0 0 0 0 else none

def read? (text : String) : Option Instant :=
  readTimestamp? text.toList <|> readDay? text.toList

example : (read? "2024-03-01T13:00:00+01:00").map write = some "2024-03-01T12:00:00Z" := by
  decide +kernel
example : (read? "1972-06-30 23:59:60.5Z").map write = some "1972-06-30T23:59:60.500Z" := by
  decide +kernel
example : (read? "-1- 2-3").map write = some "-0001-02-03T00:00:00Z" := by decide +kernel
example : (read? "2023-02-29").map write = none := by decide +kernel

end Instant
end DocumentTypes.Calendar
