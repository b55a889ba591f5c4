import RowFilter.Text.Property
import RowFilter.Text.Script

/-!
The classes of characters that decide where a text breaks into what a reader takes for characters,
into words and into sentences, as version 16.0 of the character standard gives them.
-/

namespace RowFilter.Text

/-! ## Characters as read -/

/-- Vowels, and the first and last consonants of Korean syllables. -/
def hangulLeading : CharSet := .ofText "1100-115F A960-A97C"

def hangulVowel : CharSet := .ofText "1160-11A7 D7B0-D7C6 16D63 16D67-16D6A"

def hangulTrailing : CharSet := .ofText "11A8-11FF D7CB-D7FB"

/-- Korean syllables without a last consonant: every 28th of their block. -/
def hangulOpen : CharSet :=
  ⟨(Array.range 399).map fun i => (0xAC00 + 28 * i, 0xAC00 + 28 * i)⟩

def hangulClosed : CharSet :=
  (CharSet.ofText "AC00-D7A3").difference hangulOpen

def graphemeAttached : CharSet :=
  Property.graphemeExtend.union Property.emojiModifier

def graphemeControl : CharSet :=
  (CharSet.unionAll [Category.lineSeparator, Category.paragraphSeparator, Category.control,
    Category.format, Category.unassigned.intersection Property.defaultIgnorable]).difference
    (.unionAll [Property.prependedConcatenationMark, graphemeAttached, .ofText "A D 200C-200D"])

def graphemeSpacing : CharSet :=
  (Category.spacingMark.union (.ofText "E33 EB3")).difference
    (.unionAll [graphemeAttached, .ofText "102B-102C 1038 1062-1064 1067-106D 1083 1087-108C 108F",
      .ofText "109A-109C 1A61 1A63-1A64 AA7B AA7D 11720-11721"])

def graphemeBreaks : List NamedSet := [
  ⟨["cr"], .ofText "D"⟩,
  ⟨["control", "cn"], graphemeControl⟩,
  ⟨["extend", "ex"], graphemeAttached⟩,
  ⟨["l"], hangulLeading⟩,
  ⟨["lf"], .ofText "A"⟩,
  ⟨["lv"], hangulOpen⟩,
  ⟨["lvt"], hangulClosed⟩,
  ⟨["prepend", "pp"], .ofText "
  600-605 6DD 70F 890-891 8E2 D4E 110BD 110CD 111C2-111C3 113D1 1193F 11941 11A3A 11A84-11A89
  11D46 11F02"⟩,
  ⟨["regionalindicator", "ri"], .ofText "1F1E6-1F1FF"⟩,
  ⟨["spacingmark", "sm"], graphemeSpacing⟩,
  ⟨["t"], hangulTrailing⟩,
  ⟨["v"], hangulVowel⟩,
  ⟨["zwj"], .ofText "200D"⟩]

/-! ## Words -/

/-- What joins the word before it: marks, joiners and changes of an emoji's colour. -/
def wordAttached : CharSet :=
  .unionAll [Property.graphemeExtend, Category.spacingMark, Property.emojiModifier]

/-- The Japanese syllables of the cursive kind, each a word by itself. -/
def hiragana : CharSet := .ofText "3041-3096 309D-309F 1B001-1B11F 1B132 1B150-1B152 1F200"

def katakanaWord : CharSet := .ofText "
  3031-3035 309B-309C 30A0-30FA 30FC-30FF 31F0-31FF 32D0-32FE 3300-3357 FF66-FF9D 1AFF0-1AFF3
  1AFF5-1AFFB 1AFFD-1AFFE 1B000 1B120-1B122 1B155 1B164-1B167"

def hebrewLetter : CharSet := .ofText "
  5D0-5EA 5EF-5F2 FB1D FB1F-FB28 FB2A-FB36 FB38-FB3C FB3E FB40-FB41 FB43-FB44 FB46-FB4F"

/-- Digits, and the marks that belong to a number. -/
def numeric : CharSet :=
  Category.decimalNumber.union (.ofText "600-605 66B 6DD 890-891 8E2 19DA 110BD 110CD")

/-- Letters of scripts that do not part their words. -/
def unpartedLetter : CharSet := .ofText "
  E01-E30 E32-E33 E40-E46 E81-E82 E84 E86-E8A E8C-EA3 EA5 EA7-EB0 EB2-EB3 EBD EC0-EC4 EC6 EDC-EDF
  1000-102A 103F 1050-1055 105A-105D 1061 1065-1066 106E-1070 1075-1081 108E 1780-17B3 17D7 17DC
  1950-196D 1970-1974 1980-19AB 19B0-19C9 1A20-1A54 1AA7 A9E0-A9E4 A9E6-A9EF A9FA-A9FE AA60-AA76
  AA7A AA7E-AAAF AAB1 AAB5-AAB6 AAB9-AABD AAC0 AAC2 AADB-AADD 11700-1171A 11740-11746"

/-- Letters of the scripts that part their words. -/
def wordLetter : CharSet :=
  (CharSet.unionAll [Property.alphabetic, .ofText "55E 58A 5F3 70F A708-A716 A720-A721 A789-A78A",
    .ofText "AB5B", .ofText "2C2-2C5 2D2-2D7 2DE-2DF 2E5-2EB 2ED 2EF-2FF 55A-55C"]).difference
    (.unionAll [Property.ideographic, hiragana, katakanaWord, wordAttached, hebrewLetter, numeric,
      unpartedLetter])

def wordFormat : CharSet :=
  Category.format.difference
    (.unionAll [Property.prependedConcatenationMark, .ofText "200B-200D E0020-E007F"])

def wordBreaks : List NamedSet := [
  ⟨["aletter", "le"], wordLetter⟩,
  ⟨["cr"], .ofText "D"⟩,
  ⟨["doublequote", "dq"], .ofText "22"⟩,
  ⟨["extend"], wordAttached⟩,
  ⟨["extendnumlet", "ex"], .ofText "5F 202F 203F-2040 2054 FE33-FE34 FE4D-FE4F FF3F"⟩,
  ⟨["format", "fo"], wordFormat⟩,
  ⟨["hebrewletter", "hl"], hebrewLetter⟩,
  ⟨["katakana", "ka"], katakanaWord⟩,
  ⟨["lf"], .ofText "A"⟩,
  ⟨["midletter", "ml"], .ofText "3A B7 387 55F 5F4 2027 FE13 FE55 FF1A"⟩,
  ⟨["midnum", "mn"], .ofText "2C 3B 37E 589 60C-60D 66C 7F8 2044 FE50 FE54 FF0C FF1B"⟩,
  ⟨["midnumlet", "mb"], .ofText "2E 2018-2019 2024 FE52 FF07 FF0E"⟩,
  ⟨["newline", "nl"], .ofText "B-C 85 2028-2029"⟩,
  ⟨["numeric", "nu"], numeric⟩,
  ⟨["regionalindicator", "ri"], .ofText "1F1E6-1F1FF"⟩,
  ⟨["singlequote", "sq"], .ofText "27"⟩,
  ⟨["wsegspace"], .ofText "20 1680 2000-2006 2008-200A 205F 3000"⟩,
  ⟨["zwj"], .ofText "200D"⟩]

/-! ## Sentences -/

def sentenceNumeric : CharSet := numeric.union (.ofText "66C")

def fullStop : CharSet := .ofText "2E 2024 FE52 FF0E"

def sentenceAttached : CharSet :=
  .unionAll [Property.graphemeExtend, Category.spacingMark, .single '\u200d']

/-- The small letters of Georgian do not begin a sentence any less than its capitals. -/
def sentenceLower : CharSet :=
  Property.lowercase.difference (Property.graphemeExtend.union (.ofText "10D0-10FA 10FD-10FF"))

def sentenceUpper : CharSet :=
  (Property.uppercase.union Category.titlecaseLetter).difference (.ofText "1C90-1CBA 1CBD-1CBF")

def sentenceLetter : CharSet :=
  (Property.alphabetic.union (.ofText "5F3")).difference
    (.unionAll [sentenceLower, sentenceUpper, sentenceAttached])

def sentenceClose : CharSet :=
  .unionAll [Category.openPunctuation, Category.closePunctuation, Category.initialPunctuation,
    Category.finalPunctuation, .ofText "22 27 275B-2760 2E00-2E01 2E06-2E08 2E0B 1F676-1F678"]

def sentenceSeparator : CharSet := .ofText "85 2028-2029"

def sentenceSpace : CharSet :=
  Property.whiteSpace.difference (sentenceSeparator.union (.ofText "A D"))

def sentenceFormat : CharSet :=
  Category.format.difference
    (.unionAll [Property.prependedConcatenationMark.difference (.ofText "70F"),
      .ofText "200C-200D E0020-E007F"])

def sentenceBreaks : List NamedSet := [
  ⟨["aterm", "at"], fullStop⟩,
  ⟨["cr"], .ofText "D"⟩,
  ⟨["close", "cl"], sentenceClose⟩,
  ⟨["extend", "ex"], sentenceAttached⟩,
  ⟨["format", "fo"], sentenceFormat⟩,
  ⟨["lf"], .ofText "A"⟩,
  ⟨["lower", "lo"], sentenceLower⟩,
  ⟨["numeric", "nu"], sentenceNumeric⟩,
  ⟨["oletter", "le"], sentenceLetter⟩,
  ⟨["scontinue", "sc"], .ofText "
  2C-2D 3A-3B 37E 55D 60C-60D 7F8 1802 1808 2013-2014 3001 FE10-FE11 FE13-FE14 FE31-FE32 FE50-FE51
  FE54-FE55 FE58 FE63 FF0C-FF0D FF1A-FF1B FF64"⟩,
  ⟨["sterm", "st"], (Property.sentenceTerminal.difference fullStop)⟩,
  ⟨["sep", "se"], sentenceSeparator⟩,
  ⟨["sp"], sentenceSpace⟩,
  ⟨["upper", "up"], sentenceUpper⟩]

end RowFilter.Text
