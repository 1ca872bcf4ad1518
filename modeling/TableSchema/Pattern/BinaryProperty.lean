import TableSchema.Pattern.CharClass

/-!
# Binary properties

The classes of all properties that a character has or has not, with the names they go by. Most are listed
character by character; the others are derived as the standard says. Names are in the form in which they
are compared, see `Pattern/PropertyNames`.
-/

namespace TableSchema

structure NamedClass where
  names : List String
  chars : CharClass

namespace CharClass

def emojiModifier : CharClass :=
  ofRuns PropertyTable.emojiModifier

def prepended : CharClass :=
  ofRuns PropertyTable.prependedConcatenationMark

/-- Format characters and the like that show nothing of their own. -/
def defaultIgnorable : CharClass :=
  diff
    (union (ofCategories [.cf]) (union (ofRuns PropertyTable.otherDefaultIgnorableCodePoint)
      (ofRuns PropertyTable.variationSelector)))
    (union prepended (ofText "fff9-fffb 13430-1343f"))

def graphemeExtend : CharClass :=
  union (ofCategories [.mn, .me]) (ofRuns PropertyTable.otherGraphemeExtend)

def graphemeBase : CharClass :=
  diff (property .assigned) (union (ofCategories [.cc, .cf, .co, .zl, .zp]) graphemeExtend)

def patternCharacter : CharClass :=
  union (ofRuns PropertyTable.patternSyntax) (ofRuns PropertyTable.patternWhiteSpace)

def idStart : CharClass :=
  diff
    (union (ofCategories [.lu, .ll, .lt, .lm, .lo, .nl]) (ofRuns PropertyTable.otherIdStart))
    patternCharacter

def idContinue : CharClass :=
  diff
    (union idStart (union (ofCategories [.mn, .mc, .nd, .pc]) (ofRuns PropertyTable.otherIdContinue)))
    patternCharacter

/-- As `idStart`, without characters that normalization would take out of it. -/
def xidStart : CharClass :=
  diff idStart (ofText "37a e33 eb3 309b-309c fc5e-fc63 fdfa-fdfb fe70-fe7e/2 ff9e-ff9f")

def xidContinue : CharClass :=
  diff idContinue (ofText "37a 309b-309c fc5e-fc63 fdfa-fdfb fe70-fe7e/2")

def math : CharClass :=
  union (ofCategories [.sm]) (ofRuns PropertyTable.otherMath)

/-! ## Characters that a change of case changes -/

/-- Upper-case letters without a lower-case form. -/
def loneUpper : CharClass := ofRuns (CodeSet.ofLines
    ["3d2-3d4 2102 2107 210b-210d 2110-2112 2115 2119-211d 2124 2128 212c-212d 2130-2131 2133",
    "213e-213f 2145 1d400-1d419 1d434-1d44d 1d468-1d481 1d49c 1d49e-1d49f 1d4a2 1d4a5-1d4a6",
    "1d4a9-1d4ac 1d4ae-1d4b5 1d4d0-1d4e9 1d504-1d505 1d507-1d50a 1d50d-1d514 1d516-1d51c",
    "1d538-1d539 1d53b-1d53e 1d540-1d544 1d546 1d54a-1d550 1d56c-1d585 1d5a0-1d5b9 1d5d4-1d5ed",
    "1d608-1d621 1d63c-1d655 1d670-1d689 1d6a8-1d6c0 1d6e2-1d6fa 1d71c-1d734 1d756-1d76e",
    "1d790-1d7a8 1d7ca"])

/-- Lower-case letters without an upper-case form. -/
def loneLower : CharClass := ofRuns (CodeSet.ofLines
    ["138 18d 1aa-1ab 1ba 1be 221 234-239 255 258 25a 25d-25f 262 267 26d-26e 270 273-274",
    "276-27c 27e-27f 281 284-286 28d-291 293 295-29c 29f-2af 3fc 560 588 1d00-1d2b 1d6b-1d77",
    "1d7a-1d7c 1d7e-1d8d 1d8f-1d9a 1e9c-1e9d 1e9f 210a 210e-210f 2113 212f 2134 2139 213c-213d",
    "2146-2149 2c71 2c74 2c77-2c7b 2ce4 a730-a731 a771-a778 a78e a795 a7af a7d3 a7d5 a7fa",
    "ab30-ab52 ab54-ab5a ab60-ab68 1d41a-1d433 1d44e-1d454 1d456-1d467 1d482-1d49b 1d4b6-1d4b9",
    "1d4bb 1d4bd-1d4c3 1d4c5-1d4cf 1d4ea-1d503 1d51e-1d537 1d552-1d56b 1d586-1d59f 1d5ba-1d5d3",
    "1d5ee-1d607 1d622-1d63b 1d656-1d66f 1d68a-1d6a5 1d6c2-1d6da 1d6dc-1d6e1 1d6fc-1d714",
    "1d716-1d71b 1d736-1d74e 1d750-1d755 1d770-1d788 1d78a-1d78f 1d7aa-1d7c2 1d7c4-1d7c9 1d7cb",
    "1df00-1df09 1df0b-1df1e 1df25-1df2a"])

def changesLowercased : CharClass :=
  diff (union (ofCategories [.lu, .lt]) (ofText "2160-216f 24b6-24cf")) loneUpper

def changesUppercased : CharClass :=
  diff (union (ofCategories [.ll, .lt]) (ofText "345 2170-217f 24d0-24e9")) loneLower

/-- Digraphs in title case and Georgian letters stay as they are in titles. -/
def changesTitlecased : CharClass :=
  diff (union changesUppercased (ofText "1c4 1c7 1ca 1f1"))
    (ofText "1c5 1c8 1cb 1f2 10d0-10fa 10fd-10ff 1f88-1f8f 1f98-1f9f 1fa8-1faf 1fbc 1fcc 1ffc")

def changesFolded : CharClass :=
  union (diff changesLowercased (ofText "13a0-13f5")) (ofRuns (CodeSet.ofLines
    ["b5 df 149 17f 345 3c2 3d0-3d1 3d5-3d6 3f0-3f1 3f5 587 13f8-13fd 1c80-1c88 1e9a-1e9b",
    "1f80-1f87 1f90-1f97 1fa0-1fa7 1fb2-1fb4 1fb7 1fc2-1fc4 1fc7 1ff2-1ff4 1ff7 ab70-abbf",
    "fb00-fb06 fb13-fb17"]))

def changesMapped : CharClass :=
  union changesLowercased (union changesUppercased changesTitlecased)

end CharClass

def binaryProperties : List NamedClass := [
  ⟨["ahex", "asciihexdigit"], .ofRuns PropertyTable.asciiHexDigit⟩,
  ⟨["alpha", "alphabetic"], .property .alphabetic⟩,
  ⟨["bidic", "bidicontrol"], .ofRuns PropertyTable.bidiControl⟩,
  ⟨["bidim", "bidimirrored"], .ofRuns PropertyTable.bidiMirrored⟩,
  ⟨["caseignorable", "ci"], .property .caseIgnorable⟩,
  ⟨["cased"], .property .cased⟩,
  ⟨["changeswhencasefolded", "cwcf"], .changesFolded⟩,
  ⟨["changeswhencasemapped", "cwcm"], .changesMapped⟩,
  ⟨["changeswhenlowercased", "cwl"], .changesLowercased⟩,
  ⟨["changeswhentitlecased", "cwt"], .changesTitlecased⟩,
  ⟨["changeswhenuppercased", "cwu"], .changesUppercased⟩,
  ⟨["dash"], .ofRuns PropertyTable.dash⟩,
  ⟨["defaultignorablecodepoint", "di"], .defaultIgnorable⟩,
  ⟨["dep", "deprecated"], .ofRuns PropertyTable.deprecated⟩,
  ⟨["dia", "diacritic"], .ofRuns PropertyTable.diacritic⟩,
  ⟨["emoji"], .ofRuns PropertyTable.emoji⟩,
  ⟨["ecomp", "emojicomponent"], .ofRuns PropertyTable.emojiComponent⟩,
  ⟨["emod", "emojimodifier"], .ofRuns PropertyTable.emojiModifier⟩,
  ⟨["ebase", "emojimodifierbase"], .ofRuns PropertyTable.emojiModifierBase⟩,
  ⟨["emojipresentation", "epres"], .ofRuns PropertyTable.emojiPresentation⟩,
  ⟨["extendedpictographic", "extpict"], .ofRuns PropertyTable.extendedPictographic⟩,
  ⟨["ext", "extender"], .ofRuns PropertyTable.extender⟩,
  ⟨["graphemebase", "grbase"], .graphemeBase⟩,
  ⟨["graphemeextend", "grext"], .graphemeExtend⟩,
  ⟨["graphemelink", "grlink"], .ofRuns PropertyTable.graphemeLink⟩,
  ⟨["hex", "hexdigit"], .ofRuns PropertyTable.hexDigit⟩,
  ⟨["hyphen"], .ofRuns PropertyTable.hyphen⟩,
  ⟨["idsb", "idsbinaryoperator"], .ofRuns PropertyTable.idsBinaryOperator⟩,
  ⟨["idst", "idstrinaryoperator"], .ofRuns PropertyTable.idsTrinaryOperator⟩,
  ⟨["idsu", "idsunaryoperator"], .ofRuns PropertyTable.idsUnaryOperator⟩,
  ⟨["idcompatmathcontinue"], .ofRuns PropertyTable.idCompatMathContinue⟩,
  ⟨["idcompatmathstart"], .ofRuns PropertyTable.idCompatMathStart⟩,
  ⟨["idc", "idcontinue"], .idContinue⟩,
  ⟨["ids", "idstart"], .idStart⟩,
  ⟨["ideo", "ideographic"], .ofRuns PropertyTable.ideographic⟩,
  ⟨["joinc", "joincontrol"], .ofRuns PropertyTable.joinControl⟩,
  ⟨["loe", "logicalorderexception"], .ofRuns PropertyTable.logicalOrderException⟩,
  ⟨["lower", "lowercase"], .property .lowercase⟩,
  ⟨["math"], .math⟩,
  ⟨["mcm", "modifiercombiningmark"], .ofRuns PropertyTable.modifierCombiningMark⟩,
  ⟨["nchar", "noncharactercodepoint"], .ofRuns PropertyTable.noncharacterCodePoint⟩,
  ⟨["oalpha", "otheralphabetic"], .ofRuns PropertyTable.otherAlphabetic⟩,
  ⟨["odi", "otherdefaultignorablecodepoint"], .ofRuns PropertyTable.otherDefaultIgnorableCodePoint⟩,
  ⟨["ogrext", "othergraphemeextend"], .ofRuns PropertyTable.otherGraphemeExtend⟩,
  ⟨["oidc", "otheridcontinue"], .ofRuns PropertyTable.otherIdContinue⟩,
  ⟨["oids", "otheridstart"], .ofRuns PropertyTable.otherIdStart⟩,
  ⟨["olower", "otherlowercase"], .ofRuns PropertyTable.otherLowercase⟩,
  ⟨["omath", "othermath"], .ofRuns PropertyTable.otherMath⟩,
  ⟨["otheruppercase", "oupper"], .ofRuns PropertyTable.otherUppercase⟩,
  ⟨["patsyn", "patternsyntax"], .ofRuns PropertyTable.patternSyntax⟩,
  ⟨["patternwhitespace", "patws"], .ofRuns PropertyTable.patternWhiteSpace⟩,
  ⟨["pcm", "prependedconcatenationmark"], .ofRuns PropertyTable.prependedConcatenationMark⟩,
  ⟨["qmark", "quotationmark"], .ofRuns PropertyTable.quotationMark⟩,
  ⟨["radical"], .ofRuns PropertyTable.radical⟩,
  ⟨["regionalindicator", "ri"], .ofRuns PropertyTable.regionalIndicator⟩,
  ⟨["sentenceterminal", "sterm"], .ofRuns PropertyTable.sentenceTerminal⟩,
  ⟨["sd", "softdotted"], .ofRuns PropertyTable.softDotted⟩,
  ⟨["term", "terminalpunctuation"], .ofRuns PropertyTable.terminalPunctuation⟩,
  ⟨["uideo", "unifiedideograph"], .ofRuns PropertyTable.unifiedIdeograph⟩,
  ⟨["upper", "uppercase"], .property .uppercase⟩,
  ⟨["variationselector", "vs"], .ofRuns PropertyTable.variationSelector⟩,
  ⟨["space", "whitespace", "wspace"], .property .blank⟩,
  ⟨["xidc", "xidcontinue"], .xidContinue⟩,
  ⟨["xids", "xidstart"], .xidStart⟩]

end TableSchema
