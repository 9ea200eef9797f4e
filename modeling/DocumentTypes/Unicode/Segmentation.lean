import DocumentTypes.Unicode.Property
import DocumentTypes.Unicode.Script

/-! # Segmentation

The values by which a text is divided into clusters that are seen as one character,
into words and into sentences, in edition 16 of the standard. A code point has at most
one value for each division. -/

namespace DocumentTypes.Unicode.Segmentation

/-! ## Sets that several divisions use -/

def carriageReturn : CodeSet := .read "D"
def lineFeed : CodeSet := .read "A"
def zeroWidthJoiner : CodeSet := .read "200D"

def scriptMembers (name : String) : CodeSet :=
  .unionOf ((scripts.filter fun script => script.names.contains name).map Script.members)

def followingMarks : CodeSet :=
  .unionOf [Property.graphemeExtend, spacingMarks, Property.emojiModifier]

def numeric : CodeSet := decimalDigits ∪ .read "600-605 66B 6DD 890-891 8E2 110BD 110CD"

/-! ## Clusters -/

def syllableLeads : CodeSet := .read "1100-115F A960-A97C"
def syllableVowels : CodeSet := .read
  "1160-11A7 D7B0-D7C6 16D63 16D67-16D6A"
def syllableTails : CodeSet := .read
  "11A8-11FF D7CB-D7FB"
def openSyllables : CodeSet := .read "AC00-D788/1C"

def closedSyllables : CodeSet := (CodeSet.between 0xAC00 0xD7A3).difference openSyllables

def prepended : CodeSet := .read
  ("600-605 6DD 70F 890-891 8E2 D4E 110BD 110CD 111C2-111C3 113D1 1193F 11941 11A3A " ++
  "11A84-11A89 11D46 11F02")

def separateMarks : CodeSet := .read
  ("102B-102C 1038 1062-1064 1067-106D 1083 1087-108C 108F 109A-109C 1A61 1A63-1A64 AA7B " ++
  "AA7D 11720-11721")

def clusterMarks : CodeSet :=
  (spacingMarks ∪ .read "E33 EB3").difference
    (.unionOf [
      Property.graphemeExtend, Property.emojiModifier, separateMarks, syllableVowels])

/-- Characters that break every cluster. Among them are code points that are kept free
for ignorable characters. -/
def clusterControls : CodeSet :=
  (CodeSet.unionOf [
    controls, formats, lineSeparators, paragraphSeparators,
    Property.defaultIgnorable.intersection Category.unassigned.members]).difference
      (.unionOf [
        carriageReturn, lineFeed, Property.joinControl, Property.prependedConcatenationMark,
        Property.graphemeExtend])

def clusterBreaks : List (List String × CodeSet) := [
  (["CN", "Control"], clusterControls),
  (["CR"], carriageReturn),
  (["EX", "Extend"], Property.graphemeExtend ∪ Property.emojiModifier),
  (["L"], syllableLeads),
  (["LF"], lineFeed),
  (["LV"], openSyllables),
  (["LVT"], closedSyllables),
  (["PP", "Prepend"], prepended),
  (["RI", "Regional_Indicator"], Property.regionalIndicator),
  (["SM", "SpacingMark"], clusterMarks),
  (["T"], syllableTails),
  (["V"], syllableVowels),
  (["ZWJ"], zeroWidthJoiner)]

/-! ## Words -/

def katakana : CodeSet :=
  scriptMembers "Katakana" ∪ .read "3031-3035 309B-309C 30A0 30FC FF70"

def hebrewLetters : CodeSet := (scriptMembers "Hebrew").intersection otherLetters

def letterLike : CodeSet := .read
  ("2C2-2C5 2D2-2D7 2DE-2DF 2E5-2EB 2ED 2EF-2FF 55A-55C 55E 58A 5F3 70F A708-A716 " ++
  "A720-A721 A789-A78A AB5B")

/-- Letters and marks of scripts that are written without blanks between words. -/
def unspaced : CodeSet := .read
  ("E01-E3A E40-E4E E81-E82 E84 E86-E8A E8C-EA3 EA5 EA7-EBD EC0-EC4 EC6 EC8-ECE EDC-EDF " ++
  "1000-103F 1050-108F 109A-109F 1780-17D3 17D7 17DC-17DD 1950-196D 1970-1974 1980-19AB " ++
  "19B0-19C9 19DA 19DE-19DF 1A20-1A5E 1A60-1A7C 1AA0-1AAD A9E0-A9EF A9FA-A9FE AA60-AAC2 " ++
  "AADB-AADF 11700-1171A 1171D-1172B 1173A-1173B 1173F-11746")

def wordLetters : CodeSet :=
  (Property.alphabetic ∪ letterLike).difference (.unionOf [
    Property.ideographic, katakana, unspaced, scriptMembers "Hiragana", followingMarks,
    hebrewLetters])

/-- Format characters other than those between words or within clusters. -/
def wordFormats : CodeSet :=
  formats.difference
    (.unionOf [.read "200B-200D", Property.graphemeExtend, numeric, wordLetters])

def wordBreaks : List (List String × CodeSet) := [
  (["CR"], carriageReturn),
  (["DQ", "Double_Quote"], .read "22"),
  (["EX", "ExtendNumLet"], connectors ∪ .read "202F"),
  (["Extend"], followingMarks.difference zeroWidthJoiner),
  (["FO", "Format"], wordFormats),
  (["HL", "Hebrew_Letter"], hebrewLetters),
  (["KA", "Katakana"], katakana),
  (["LE", "ALetter"], wordLetters),
  (["LF"], lineFeed),
  (["MB", "MidNumLet"], .read "2E 2018-2019 2024 FE52 FF07 FF0E"),
  (["ML", "MidLetter"], .read "3A B7 387 55F 5F4 2027 FE13 FE55 FF1A"),
  (["MN", "MidNum"], .read "2C 3B 37E 589 60C-60D 66C 7F8 2044 FE10 FE14 FE50 FE54 FF0C FF1B"),
  (["NL", "Newline"], .read "B-C 85 2028-2029"),
  (["NU", "Numeric"], numeric),
  (["RI", "Regional_Indicator"], Property.regionalIndicator),
  (["SQ", "Single_Quote"], .read "27"),
  (["WSegSpace"], spaceSeparators.difference (.read "A0 2007 202F")),
  (["ZWJ"], zeroWidthJoiner)]

/-! ## Sentences -/

def fullStops : CodeSet := .read "2E 2024 FE52 FF0E"

def sentenceNumeric : CodeSet := numeric ∪ .read "66C"

def sentenceExtend : CodeSet :=
  .unionOf [Property.graphemeExtend, spacingMarks, zeroWidthJoiner]

def sentenceSeparators : CodeSet := .read "85 2028-2029"

def sentenceLower : CodeSet :=
  Property.lowercase.difference (Property.graphemeExtend ∪ .read "10D0-10FA 10FD-10FF")

def sentenceUpper : CodeSet :=
  (titlecaseLetters ∪ Property.uppercase).difference (.read "1C90-1CBA 1CBD-1CBF")

def sentenceTerminals : CodeSet := Property.sentenceTerminal.difference fullStops

def straightQuotes : CodeSet := .read
  "22 27 275B-2760 2E00-2E01 2E06-2E08 2E0B 1F676-1F678"

def sentenceContinuations : CodeSet := .read
  ("2C-2D 3A-3B 37E 55D 60C-60D 7F8 1802 1808 2013-2014 3001 FE10-FE11 FE13-FE14 " ++
  "FE31-FE32 FE50-FE51 FE54-FE55 FE58 FE63 FF0C-FF0D FF1A-FF1B FF64")

def sentenceBreaks : List (List String × CodeSet) := [
  (["AT", "ATerm"], fullStops),
  (["CL", "Close"],
    (CodeSet.unionOf [
      openPunctuationMarks, closePunctuationMarks, initialPunctuationMarks,
      finalPunctuationMarks, straightQuotes]).difference (fullStops ∪ sentenceTerminals)),
  (["CR"], carriageReturn),
  (["EX", "Extend"], sentenceExtend),
  (["FO", "Format"],
    formats.difference (.unionOf [
      Property.joinControl, Property.graphemeExtend, sentenceNumeric])),
  (["LE", "OLetter"],
    (Property.alphabetic ∪ .read "5F3").difference
      (.unionOf [sentenceLower, sentenceUpper, sentenceExtend])),
  (["LF"], lineFeed),
  (["LO", "Lower"], sentenceLower),
  (["NU", "Numeric"], sentenceNumeric),
  (["SC", "SContinue"], sentenceContinuations),
  (["SE", "Sep"], sentenceSeparators),
  (["SP", "Sp"],
    Property.whiteSpace.difference
      (.unionOf [sentenceSeparators, carriageReturn, lineFeed])),
  (["ST", "STerm"], sentenceTerminals),
  (["UP", "Upper"], sentenceUpper)]

end DocumentTypes.Unicode.Segmentation
