import WireSchema.Property.CaseFolding
import WireSchema.Property.Category
import WireSchema.Property.Listed

-- Properties that follow from categories and from other properties.
namespace WireSchema.Property
open Text

def whiteSpace : CharacterSet := .ofRanges whiteSpaceRanges

def lowercase : CharacterSet := (categories ["Ll"]).union otherLowercase

def uppercase : CharacterSet := (categories ["Lu"]).union otherUppercase

def alphabetic : CharacterSet :=
  .unions [lowercase, uppercase, categories ["Lm", "Lo", "Lt", "Nl"], otherAlphabetic]

def math : CharacterSet := (categories ["Sm"]).union otherMath

def cased : CharacterSet := .unions [lowercase, uppercase, categories ["Lt"]]

def caseIgnorable : CharacterSet :=
  (categories ["Cf", "Lm", "Me", "Mn", "Sk"]).union
    (setOfText "27 2E 3A B7 387 55F 5F4 2018-2019 2024 2027 FE13 FE52 FE55 FF07 FF0E FF1A")

def changesWhenLowercased : CharacterSet :=
  ((uppercase.union (categories ["Lt"])).intersection withOtherCase).union (setOfText "130")

-- What grows by folding, or folds to a letter that is no small one, is listed.
def changesWhenCasefolded : CharacterSet :=
  (changesWhenLowercased.union (setOfText
    "B5 DF 130 149 17F 345 3C2 3D0-3D1 3D5-3D6 3F0-3F1 3F5 587 13F8-13FD 1C80-1C88 1E9A-1E9B
    1F80-1F87 1F90-1F97 1FA0-1FA7 1FB2-1FB4 1FB7 1FC2-1FC4 1FC7 1FF2-1FF4 1FF7 AB70-ABBF FB00-FB06
    FB13-FB17")).difference (setOfText "13A0-13F5")

-- What a capital is only known of in several letters is listed, here and for title case.
def changesWhenUppercased : CharacterSet :=
  ((lowercase.union (categories ["Lt", "Mn"])).intersection withOtherCase).union (setOfText
    "131 149 1F0 587 1E96-1E9A 1F50 1F52 1F54 1F56 1FB2 1FB4 1FB6-1FB7 1FC2 1FC4 1FC6-1FC7 1FD2
    1FD6-1FD7 1FE2 1FE4 1FE6-1FE7 1FF2 1FF4 1FF6-1FF7 FB00-FB04 FB13-FB17")

def changesWhenTitlecased : CharacterSet :=
  (((lowercase.union (categories ["Mn"])).intersection withOtherCase).union (setOfText
    "131 149 1C4 1C7 1CA 1F0-1F1 587 1E96-1E9A 1F50 1F52 1F54 1F56 1FB2 1FB4 1FB6-1FB7 1FC2 1FC4
    1FC6-1FC7 1FD2 1FD6-1FD7 1FE2 1FE4 1FE6-1FE7 1FF2 1FF4 1FF6-1FF7 FB00-FB04 FB13-FB17")).difference
      (setOfText "10D0-10FA 10FD-10FF")

def changesWhenCasemapped : CharacterSet :=
  .unions [changesWhenLowercased, changesWhenUppercased, changesWhenTitlecased]

def defaultIgnorableCodePoint : CharacterSet :=
  (CharacterSet.unions [otherDefaultIgnorableCodePoint, categories ["Cf"],
    variationSelector]).difference
      (.unions [whiteSpace, setOfText "FFF9-FFFB 13430-1343F", prependedConcatenationMark])

def graphemeExtend : CharacterSet := (categories ["Me", "Mn"]).union otherGraphemeExtend

def graphemeBase : CharacterSet :=
  (CharacterSet.complement (categories ["Cc", "Cf", "Cn", "Co", "Cs", "Zl", "Zp"])).difference
    graphemeExtend

def patternCharacters : CharacterSet := patternSyntax.union patternWhiteSpace

def idStart : CharacterSet :=
  ((categories ("Nl" :: letterCategories)).union otherIdStart).difference patternCharacters

def idContinue : CharacterSet :=
  (CharacterSet.unions [idStart, categories ["Mc", "Mn", "Nd", "Pc"], otherIdContinue]).difference
    patternCharacters

def normalizingAway : CharacterSet := setOfText
  "37A 309B-309C FC5E-FC63 FDFA-FDFB FE70 FE72 FE74 FE76 FE78 FE7A FE7C FE7E"

def xidStart : CharacterSet :=
  idStart.difference (normalizingAway.union (setOfText "E33 EB3 FF9E-FF9F"))

def xidContinue : CharacterSet := idContinue.difference normalizingAway

def decimalDigit : CharacterSet := categories ["Nd"]

def wordCharacter : CharacterSet :=
  .unions [alphabetic, categories ("Nd" :: "Pc" :: markCategories), joinControl]

end WireSchema.Property
