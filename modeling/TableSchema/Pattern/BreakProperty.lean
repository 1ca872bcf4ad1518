import TableSchema.Pattern.BinaryProperty

/-!
# Properties that find boundaries

Each of the three properties gives a character at most one value here, by what it does at the boundaries
of grapheme clusters, words and sentences. Characters of no such value have the value `other`, which is no
class.
-/

namespace TableSchema

namespace CharClass

def lineFeed : CharClass :=
  single '\n'

def carriageReturn : CharClass :=
  single '\r'

def zeroWidthJoiner : CharClass :=
  ofText "200d"

def regionalIndicator : CharClass :=
  ofRuns PropertyTable.regionalIndicator

/-- Marks, and what else goes with the character before it. -/
def extendsWord : CharClass :=
  diff (union graphemeExtend (union (ofCategories [.mc]) emojiModifier)) zeroWidthJoiner

/-! ## Grapheme clusters -/

def graphemeControl : CharClass :=
  diff
    (union (ofCategories [.cc, .zl, .zp, .cf]) (diff defaultIgnorable (property .assigned)))
    (union prepended (ofText "a d 200c-200d e0020-e007f"))

def spacingMark : CharClass :=
  diff (union (diff (ofCategories [.mc]) graphemeExtend) (ofText "e33 eb3"))
    (ofRuns (CodeSet.ofLines
      ["102b-102c 1038 1062-1064 1067-106d 1083 1087-108c 108f 109a-109c 1a61 1a63-1a64 aa7b aa7d",
      "11720-11721"]))

/-- Hangul syllables without a final consonant: the first of every 28. -/
def openSyllable : CharClass :=
  ofText "ac00-d788/1c"

def graphemeBreaks : List NamedClass := [
  ⟨["cr"], carriageReturn⟩,
  ⟨["lf"], lineFeed⟩,
  ⟨["cn", "control"], graphemeControl⟩,
  ⟨["ex", "extend"], union graphemeExtend emojiModifier⟩,
  ⟨["zwj"], zeroWidthJoiner⟩,
  ⟨["ri", "regionalindicator"], regionalIndicator⟩,
  ⟨["pp", "prepend"],
    union prepended (ofText "d4e 111c2-111c3 113d1 1193f 11941 11a3a 11a84-11a89 11d46 11f02")⟩,
  ⟨["sm", "spacingmark"], spacingMark⟩,
  ⟨["l"], ofText "1100-115f a960-a97c"⟩,
  ⟨["v"], ofText "1160-11a7 d7b0-d7c6 16d63 16d67-16d6a"⟩,
  ⟨["t"], ofText "11a8-11ff d7cb-d7fb"⟩,
  ⟨["lv"], openSyllable⟩,
  ⟨["lvt"], diff (ofText "ac00-d7a3") openSyllable⟩]

/-! ## Words -/

def wordKatakana : CharClass :=
  ofRuns (CodeSet.ofLines
    ["3031-3035 309b-309c 30a0-30fa 30fc-30ff 31f0-31ff 32d0-32fe 3300-3357 ff66-ff9d 1aff0-1aff3",
    "1aff5-1affb 1affd-1affe 1b000 1b120-1b122 1b155 1b164-1b167"])

def hebrewLetter : CharClass :=
  ofText "5d0-5ea 5ef-5f2 fb1d fb1f-fb28 fb2a-fb36 fb38-fb3c fb3e fb40-fb41 fb43-fb44 fb46-fb4f"

/-- Letters of scripts that put no blanks between words. -/
def unspacedLetter : CharClass :=
  ofRuns (CodeSet.ofLines
    ["e01-e30 e32-e33 e40-e46 e81-e82 e84 e86-e8a e8c-ea3 ea5 ea7-eb0 eb2-eb3 ebd ec0-ec4 ec6",
    "edc-edf 1000-102a 103f 1050-1055 105a-105d 1061 1065-1066 106e-1070 1075-1081 108e 1780-17b3",
    "17d7 17dc 1950-196d 1970-1974 1980-19ab 19b0-19c9 1a20-1a54 1aa7 3041-3096 309d-309f",
    "a9e0-a9e4 a9e6-a9ef a9fa-a9fe aa60-aa76 aa7a aa7e-aaaf aab1 aab5-aab6 aab9-aabd aac0 aac2",
    "aadb-aadd 11700-1171a 11740-11746 1b001-1b11f 1b132 1b150-1b152"])

def wordLetter : CharClass :=
  union
    (diff (property .alphabetic)
      (union (union (ofRuns PropertyTable.ideographic) extendsWord)
        (union (union wordKatakana hebrewLetter) unspacedLetter)))
    (ofRuns (CodeSet.ofLines
      ["2c2-2c5 2d2-2d7 2de-2df 2e5-2eb 2ed 2ef-2ff 55a-55c 55e 58a 5f3 70f a708-a716 a720-a721",
      "a789-a78a ab5b"]))

/-- Digits, and the signs of some scripts that belong to numbers. -/
def wordNumeric : CharClass :=
  union (ofCategories [.nd]) (ofText "600-605 66b 6dd 890-891 8e2 19da 110bd 110cd")

def wordBreaks : List NamedClass := [
  ⟨["cr"], carriageReturn⟩,
  ⟨["lf"], lineFeed⟩,
  ⟨["newline", "nl"], ofText "b-c 85 2028-2029"⟩,
  ⟨["extend"], extendsWord⟩,
  ⟨["zwj"], zeroWidthJoiner⟩,
  ⟨["fo", "format"],
    diff (ofCategories [.cf])
      (ofText "600-605 6dd 70f 890-891 8e2 200b-200d 110bd 110cd e0020-e007f")⟩,
  ⟨["regionalindicator", "ri"], regionalIndicator⟩,
  ⟨["ka", "katakana"], wordKatakana⟩,
  ⟨["hebrewletter", "hl"], hebrewLetter⟩,
  ⟨["aletter", "le"], wordLetter⟩,
  ⟨["singlequote", "sq"], ofText "27"⟩,
  ⟨["doublequote", "dq"], ofText "22"⟩,
  ⟨["mb", "midnumlet"], ofText "2e 2018-2019 2024 fe52 ff07 ff0e"⟩,
  ⟨["midletter", "ml"], ofText "3a b7 387 55f 5f4 2027 fe13 fe55 ff1a"⟩,
  ⟨["midnum", "mn"], ofText "2c 3b 37e 589 60c-60d 66c 7f8 2044 fe50 fe54 ff0c ff1b"⟩,
  ⟨["numeric", "nu"], wordNumeric⟩,
  ⟨["ex", "extendnumlet"], union (ofCategories [.pc]) (ofText "202f")⟩,
  ⟨["wsegspace"], diff (ofCategories [.zs]) (ofText "a0 2007 202f")⟩]

/-! ## Sentences -/

def sentenceExtend : CharClass :=
  union graphemeExtend (union (ofCategories [.mc]) zeroWidthJoiner)

def sentenceLower : CharClass :=
  diff (property .lowercase) (union graphemeExtend (ofText "10d0-10fa 10fd-10ff"))

def sentenceUpper : CharClass :=
  diff (union (property .uppercase) (ofCategories [.lt])) (ofText "1c90-1cba 1cbd-1cbf")

/-- Full stops, which may end an abbreviation too. -/
def fullStop : CharClass :=
  ofText "2e 2024 fe52 ff0e"

def sentenceClose : CharClass :=
  diff
    (union (ofCategories [.ps, .pe, .pi, .pf]) (union (ofRuns PropertyTable.quotationMark)
      (ofText "275b-2760 2e00-2e01 2e06-2e08 2e0b 1f676-1f678")))
    (ofText "ff02 ff07")

def sentenceBreaks : List NamedClass := [
  ⟨["cr"], carriageReturn⟩,
  ⟨["lf"], lineFeed⟩,
  ⟨["se", "sep"], ofText "85 2028-2029"⟩,
  ⟨["ex", "extend"], sentenceExtend⟩,
  ⟨["fo", "format"],
    diff (ofCategories [.cf]) (ofText "600-605 6dd 890-891 8e2 200c-200d 110bd 110cd e0020-e007f")⟩,
  ⟨["sp"], diff (property .blank) (ofText "a d 85 2028-2029")⟩,
  ⟨["lo", "lower"], sentenceLower⟩,
  ⟨["up", "upper"], sentenceUpper⟩,
  ⟨["le", "oletter"],
    union (diff (property .alphabetic) (union sentenceExtend (union sentenceLower sentenceUpper)))
      (ofText "5f3")⟩,
  ⟨["nu", "numeric"],
    union (ofCategories [.nd]) (ofText "600-605 66b-66c 6dd 890-891 8e2 19da 110bd 110cd")⟩,
  ⟨["at", "aterm"], fullStop⟩,
  ⟨["st", "sterm"], diff (ofRuns PropertyTable.sentenceTerminal) fullStop⟩,
  ⟨["cl", "close"], sentenceClose⟩,
  ⟨["sc", "scontinue"],
    ofRuns (CodeSet.ofLines
      ["2c-2d 3a-3b 37e 55d 60c-60d 7f8 1802 1808 2013-2014 3001 fe10-fe11 fe13-fe14 fe31-fe32",
      "fe50-fe51 fe54-fe55 fe58 fe63 ff0c-ff0d ff1a-ff1b ff64"])⟩]

end CharClass

end TableSchema
