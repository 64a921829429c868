import CheckedTypes.BinaryProperty
import CheckedTypes.Script

namespace CheckedTypes

/-- What a character is to one way of cutting texts, by the short and the long name of the class in
lower case and without separators. -/
abbrev BoundaryClass := BinaryProperty

namespace BoundaryClass

def prefixSigns : CharSet := .ofTable
  ["600-605 6dd 70f 890-891 8e2 d4e 110bd 110cd 111c2-111c3 113d1 1193f 11941 11a3a 11a84-11a89",
   "11d46 11f02"]

def freeSpacingMarks : CharSet := .ofTable
  ["102b-102c 1038 1062-1064 1067-106d 1083 1087-108c 108f 109a-109c 1a61 1a63-1a64 aa7b aa7d",
   "11720-11721"]

def numberSigns : CharSet := .ofTable
  ["600-605 6dd 890-891 8e2 110bd 110cd"]

def complexContext : CharSet := .ofTable
  ["e01-e30 e32-e33 e40-e46 e81-e82 e84 e86-e8a e8c-ea3 ea5 ea7-eb0 eb2-eb3 ebd ec0-ec4 ec6",
   "edc-edf 1000-102a 103f 1050-1055 105a-105d 1061 1065-1066 106e-1070 1075-1081 108e 1780-17b3",
   "17d7 17dc 1950-196d 1970-1974 1980-19ab 19b0-19c9 1a20-1a54 1aa7 a9e0-a9e4 a9e6-a9ef",
   "a9fa-a9fe aa60-aa76 aa7a aa7e-aaaf aab1 aab5-aab6 aab9-aabd aac0 aac2 aadb-aadd 11700-1171a",
   "11740-11746"]

def letterLike : CharSet := .ofTable
  ["2c2-2c5 2d2-2d7 2de-2df 2e5-2eb 2ed 2ef-2ff 55a-55c 55e 58a 5f3 70f a708-a716 a720-a721",
   "a789-a78a ab5b"]

def katakanaWord : CharSet := .ofTable
  ["3031-3035 309b-309c 30a0-30fa 30fc-30ff 31f0-31ff 32d0-32fe 3300-3357 ff66-ff9d 1aff0-1aff3",
   "1aff5-1affb 1affd-1affe 1b000 1b120-1b122 1b155 1b164-1b167"]

/-- The five kinds of Korean syllables and their parts: initials, vowels and finals. -/
def initials : CharSet := .ofTable ["1100-115f a960-a97c"]

def vowels : CharSet := .ofTable ["1160-11a7 d7b0-d7c6 16d63 16d67-16d6a"]

def finals : CharSet := .ofTable ["11a8-11ff d7cb-d7fb"]

/-- Syllables without a final: every twenty-eighth of all. -/
def openSyllables : CharSet :=
  .ofRanges ((List.range 399).map fun n => ⟨0xac00 + 28 * n, 0xac00 + 28 * n⟩)

def closedSyllables : CharSet :=
  .difference (.ofTable ["ac00-d7a3"]) openSyllables

def carriageReturn : BoundaryClass := ⟨["cr"], .single '\r'⟩

def lineFeed : BoundaryClass := ⟨["lf"], .single '\n'⟩

def joiner : BoundaryClass := ⟨["zwj"], .single '\u200d'⟩

def regional : BoundaryClass := ⟨["ri", "regionalindicator"], .ofTable ["1f1e6-1f1ff"]⟩

def skinTones : CharSet := .ofTable ["1f3fb-1f3ff"]

def formats : CharSet :=
  GeneralCategory.chars [.cf]

def spacingMarks : CharSet :=
  GeneralCategory.chars [.mc]

def ofGraphemes : List BoundaryClass :=
  let extending := CharSet.union graphemeExtend skinTones
  let unassigned := CharSet.intersection defaultIgnorable (GeneralCategory.chars [.cn])
  let controls := CharSet.unionAll [GeneralCategory.chars [.zl, .zp, .cc, .cf], unassigned]
  let others := CharSet.unionAll [extending, prefixSigns, joinControl, .ofTable ["a d"]]
  [carriageReturn, lineFeed, joiner, regional,
   ⟨["cn", "control"], .difference controls others⟩,
   ⟨["ex", "extend"], extending⟩,
   ⟨["pp", "prepend"], prefixSigns⟩,
   ⟨["sm", "spacingmark"],
     .difference (.union spacingMarks (.ofTable ["e33 eb3"])) (.union extending freeSpacingMarks)⟩,
   ⟨["l"], initials⟩, ⟨["v"], vowels⟩, ⟨["t"], finals⟩,
   ⟨["lv"], openSyllables⟩, ⟨["lvt"], closedSyllables⟩]

def extendingMarks : CharSet :=
  .unionAll [graphemeExtend, spacingMarks]

def numbers : CharSet :=
  .unionAll [decimalDigits, numberSigns, .ofTable ["66b"]]

def ofWords : List BoundaryClass :=
  let extending := CharSet.union extendingMarks skinTones
  let hebrew := CharSet.intersection (scriptChars "hebr") (GeneralCategory.chars [.lo])
  let ideographic := CharSet.ofTable
    ["3006-3007 3021-3029 3038-303a 3400-4dbf 4e00-9fff f900-fa6d fa70-fad9 16fe4 17000-187f7",
     "18800-18cd5 18cff-18d08 1b170-1b2fb 20000-2a6df 2a700-2b739 2b740-2b81d 2b820-2cea1",
     "2ceb0-2ebe0 2ebf0-2ee5d 2f800-2fa1d 30000-3134a 31350-323af"]
  let others := CharSet.unionAll
    [extending, hebrew, katakanaWord, scriptChars "hira", ideographic, complexContext]
  [carriageReturn, lineFeed, joiner, regional,
   ⟨["dq", "doublequote"], .single '"'⟩,
   ⟨["sq", "singlequote"], .ofTable ["27"]⟩,
   ⟨["hl", "hebrewletter"], hebrew⟩,
   ⟨["nl", "newline"], .ofTable ["b-c 85 2028-2029"]⟩,
   ⟨["extend"], extending⟩,
   ⟨["fo", "format"],
     .difference formats (.unionAll [extending, numberSigns, .ofTable ["70f 200b-200d"]])⟩,
   ⟨["ka", "katakana"], katakanaWord⟩,
   ⟨["le", "aletter"], .union (.difference alphabetic others) letterLike⟩,
   ⟨["ml", "midletter"], .ofTable ["3a b7 387 55f 5f4 2027 fe13 fe55 ff1a"]⟩,
   ⟨["mn", "midnum"],
     .ofTable ["2c 3b 37e 589 60c-60d 66c 7f8 2044 fe10 fe14 fe50 fe54 ff0c ff1b"]⟩,
   ⟨["mb", "midnumlet"], .ofTable ["2e 2018-2019 2024 fe52 ff07 ff0e"]⟩,
   ⟨["nu", "numeric"], numbers⟩,
   ⟨["ex", "extendnumlet"], .ofTable ["5f 202f 203f-2040 2054 fe33-fe34 fe4d-fe4f ff3f"]⟩,
   ⟨["wsegspace"], .ofTable ["20 1680 2000-2006 2008-200a 205f 3000"]⟩]

def ofSentences : List BoundaryClass :=
  let extending := CharSet.union extendingMarks (.single '\u200d')
  let georgian := CharSet.ofTable ["10d0-10fa 10fd-10ff"]
  let lower := CharSet.difference lowercase (.union graphemeExtend georgian)
  let upper := CharSet.difference (.union uppercase (GeneralCategory.chars [.lt]))
    (.ofTable ["1c90-1cba 1cbd-1cbf"])
  let fullStops := CharSet.ofTable ["2e 2024 fe52 ff0e"]
  let lineEnds := CharSet.ofTable ["a d 85 2028-2029"]
  let quotes := CharSet.union (GeneralCategory.chars [.ps, .pe, .pi, .pf])
    (.ofTable ["22 27 275b-2760 2e00-2e01 2e06-2e08 2e0b 1f676-1f678"])
  [carriageReturn, lineFeed,
   ⟨["ex", "extend"], extending⟩,
   ⟨["se", "sep"], .ofTable ["85 2028-2029"]⟩,
   ⟨["fo", "format"],
     .difference formats (.unionAll [extending, numberSigns, joinControl, .ofTable ["70f"]])⟩,
   ⟨["sp"], .difference whiteSpace lineEnds⟩,
   ⟨["lo", "lower"], lower⟩,
   ⟨["up", "upper"], upper⟩,
   ⟨["le", "oletter"],
     .union (.difference alphabetic (.unionAll [lower, upper, extending])) (.ofTable ["5f3 70f"])⟩,
   ⟨["nu", "numeric"], .union numbers (.ofTable ["66c"])⟩,
   ⟨["at", "aterm"], fullStops⟩,
   ⟨["sc", "scontinue"], .ofTable
     ["2c-2d 3a 55d 60c-60d 7f8 1802 1808 2013-2014 3001 fe10-fe11 fe13 fe31-fe32 fe50-fe51 fe55",
      "fe58 fe63 ff0c-ff0d ff1a ff64"]⟩,
   ⟨["st", "sterm"], .difference ((BinaryProperty.chars? "sterm").getD .empty) fullStops⟩,
   ⟨["cl", "close"], quotes⟩]

def chars? (classes : List BoundaryClass) (name : String) : Option CharSet :=
  (classes.find? (·.names.contains name)).map BinaryProperty.chars

end BoundaryClass

end CheckedTypes
