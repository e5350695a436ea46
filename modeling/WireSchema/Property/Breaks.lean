import WireSchema.Property.Derived
import WireSchema.Property.Script

-- The part that a character plays where text is divided into what is read as one character, into
-- words, and into sentences.
namespace WireSchema.Property
open Text

-- Values by their names, each with the characters it would fit; a character has the first value that
-- fits. Names come without case, spaces and underscores.
abbrev Division := List (List String × CharacterSet)

def Division.value? (name : String) (earlier : CharacterSet) : Division → Option CharacterSet
  | [] => none
  | (names, set) :: rest =>
    if names.contains name then some (set.difference earlier)
    else Division.value? name (earlier.union set) rest

def graphemeDivision : Division := [
  (["cr"], setOfText "D"),
  (["lf"], setOfText "A"),
  (["zwj"], setOfText "200D"),
  (["ex", "extend"], graphemeExtend.union emojiModifier),
  (["pp", "prepend"], prependedConcatenationMark.union
    (setOfText "D4E 111C2-111C3 113D1 1193F 11941 11A3A 11A84-11A89 11D46 11F02")),
  (["cn", "control"], (categories ["Cc", "Cf", "Zl", "Zp"]).union
    ((categories ["Cn"]).intersection defaultIgnorableCodePoint)),
  (["ri", "regionalindicator"], regionalIndicator),
  (["sm", "spacingmark"], ((categories ["Mc"]).difference (setOfText
    "102B-102C 1038 1062-1064 1067-106D 1083 1087-108C 108F 109A-109C 1A61 1A63-1A64 AA7B AA7D
    11720-11721")).union (setOfText "E33 EB3")),
  (["l"], setOfText "1100-115F A960-A97C"),
  (["v"], setOfText "1160-11A7 D7B0-D7C6 16D63 16D67-16D6A"),
  (["t"], setOfText "11A8-11FF D7CB-D7FB"),
  (["lv"], setOfText "AC00-D788/1C"),
  (["lvt"], setOfText "AC00-D7A3")]

def unspacedLetters : CharacterSet := setOfText
  "E01-E30 E32-E33 E40-E46 E81-E82 E84 E86-E8A E8C-EA3 EA5 EA7-EB0 EB2-EB3 EBD EC0-EC4 EC6 EDC-EDF
  1000-102A 103F 1050-1055 105A-105D 1061 1065-1066 106E-1070 1075-1081 108E 1780-17B3 17D7 17DC
  1950-196D 1970-1974 1980-19AB 19B0-19C9 1A20-1A54 1AA7 A9E0-A9E4 A9E6-A9EF A9FA-A9FE AA60-AA76
  AA7A AA7E-AAAF AAB1 AAB5-AAB6 AAB9-AABD AAC0 AAC2 AADB-AADD 11700-1171A 11740-11746"

def wordSigns : CharacterSet := setOfText
  "B8 2C2-2C5 2D2-2D7 2DE-2DF 2E5-2EB 2ED 2EF-2FF 55A-55C 55E 58A 5F3 70F A708-A716 A720-A721
  A789-A78A AB5B"

def wordDivision : Division := [
  (["cr"], setOfText "D"),
  (["lf"], setOfText "A"),
  (["nl", "newline"], setOfText "B-C 85 2028-2029"),
  (["zwj"], setOfText "200D"),
  (["extend"], .unions [graphemeExtend, categories ["Mc"], emojiModifier]),
  (["fo", "format"], (categories ["Cf"]).difference (setOfText "200B")),
  (["ri", "regionalindicator"], regionalIndicator),
  (["ka", "katakana"], (scriptTable.select (· = "Kana")).union
    (setOfText "3031-3035 309B-309C 30A0 30FC FF70")),
  (["hl", "hebrewletter"], (scriptTable.select (· = "Hebr")).intersection (categories ["Lo"])),
  (["ml", "midletter"], setOfText "3A B7 387 55F 5F4 2027 FE13 FE55 FF1A"),
  (["mn", "midnum"], setOfText
    "2C 3B 37E 589 60C-60D 66C 7F8 2044 FE10 FE14 FE50 FE54 FF0C FF1B"),
  (["mb", "midnumlet"], setOfText "2E 2018-2019 2024 FE52 FF07 FF0E"),
  (["sq", "singlequote"], setOfText "27"),
  (["dq", "doublequote"], setOfText "22"),
  (["ex", "extendnumlet"], (categories ["Pc"]).union (setOfText "202F")),
  (["wsegspace"], (categories ["Zs"]).difference (setOfText "A0 2007")),
  (["nu", "numeric"], decimalDigit.union (setOfText "66B")),
  (["le", "aletter"], (alphabetic.union wordSigns).difference
    (.unions [ideographic, scriptTable.select (· = "Hira"), unspacedLetters]))]

def sentenceDivision : Division := [
  (["cr"], setOfText "D"),
  (["lf"], setOfText "A"),
  (["se", "sep"], setOfText "85 2028-2029"),
  (["ex", "extend"], .unions [graphemeExtend, categories ["Mc"], setOfText "200D"]),
  (["fo", "format"], categories ["Cf"]),
  (["sp"], whiteSpace),
  (["lo", "lower"], lowercase.difference (setOfText "10D0-10FA 10FD-10FF")),
  (["up", "upper"], (uppercase.difference (setOfText "1C90-1CBF")).union (categories ["Lt"])),
  (["le", "oletter"], alphabetic.union (setOfText "A0 5F3")),
  (["nu", "numeric"], decimalDigit.union (setOfText "66B-66C")),
  (["at", "aterm"], setOfText "2E 2024 FE52 FF0E"),
  (["st", "sterm"], sentenceTerminal),
  (["sc", "scontinue"], setOfText
    "2C-2D 3A-3B 37E 55D 60C-60D 7F8 1802 1808 2013-2014 3001 FE10-FE11 FE13-FE14 FE31-FE32
    FE50-FE51 FE54-FE55 FE58 FE63 FF0C-FF0D FF1A-FF1B FF64"),
  (["cl", "close"], (CharacterSet.unions [categories ["Pe", "Pf", "Pi", "Ps"], quotationMark,
    setOfText "275B-2760 2E00-2E01 2E06-2E08 2E0B 1F676-1F678"]).difference (setOfText "FF02 FF07"))]

end WireSchema.Property
