/-
Where text can be divided into clusters, words and sentences: the properties
that decide about this, as Unicode 16 derives them from other ones.

* **`graphemeBreakNamed?`**, **`wordBreakNamed?`**, **`sentenceBreakNamed?`** — the
  characters with a value of the property, by one of its names.
-/
import HaxeTypedefs.Unicode.Property
import HaxeTypedefs.Unicode.Script

namespace HaxeTypedefs

/-- The values of a property: names, and how to find the characters. -/
abbrev ValueTable := List (List String × (Unit → CharSet))

def ValueTable.named? (values : ValueTable) (name : String) : Option CharSet :=
  (values.find? fun entry => isLooselyOneOf entry.1 name).map fun entry => entry.2 ()

def zeroWidthJoiner : CharSet := .ofPoint 0x200D

/-- Marks that take part in the character before them. -/
def extending : CharSet :=
  (graphemeExtend.union (Category.set .mc)).union (tabulated "Emoji_Modifier")

/-- A first and a last consonant stand around every block of 588 syllables; the first of 28
syllables has no last consonant. -/
def openSyllables : CharSet :=
  .ofRanges ((List.range 399).map fun k => (0xAC00 + 28 * k, 0xAC00 + 28 * k))

def syllables : CharSet := ⟨[(0xAC00, 0xD7A3)]⟩

/-- Prepended marks. -/
def prepended : CharSet :=
  (tabulated "Prepended_Concatenation_Mark").union
    (.ofText "D4E 111C2-111C3 113D1 1193F 11941 11A84-11A89 11D46 11F02")

/-- Spacing marks that do not belong to the character before them. -/
def independentMarks : CharSet :=
  .ofText "102B-102C 1038 1062-1064 1067-106D 1083 1087-108C 108F 109A-109C 1A61 1A63-1A64 AA7B
    AA7D 11720-11721"

/-- Characters that are invisible by default though unassigned. -/
def unassignedIgnorable : CharSet :=
  (tabulated "Default_Ignorable_Code_Point").inter (Category.set .cn)

def graphemeBreaks : ValueTable :=
  [(["CN", "Control"], fun _ =>
     (CharSet.unions [Category.setOf [.zl, .zp, .cc, .cf], unassignedIgnorable]).diff
       (.unions [prepended, graphemeExtend, .ofText "A D 200D"])),
   (["CR"], fun _ => .ofPoint 0xD),
   (["EX", "Extend"], fun _ => graphemeExtend.union (tabulated "Emoji_Modifier")),
   (["L"], fun _ => .ofText "1100-115F A960-A97C"),
   (["LF"], fun _ => .ofPoint 0xA),
   (["LV"], fun _ => openSyllables),
   (["LVT"], fun _ => syllables.diff openSyllables),
   (["PP", "Prepend"], fun _ => prepended),
   (["RI", "Regional_Indicator"], fun _ => tabulated "Regional_Indicator"),
   (["SM", "SpacingMark"], fun _ =>
     ((Category.set .mc).diff (graphemeExtend.union independentMarks)).union (.ofText "E33 EB3")),
   (["T"], fun _ => .ofText "11A8-11FF D7CB-D7FB"),
   (["V"], fun _ => .ofText "1160-11A7 D7B0-D7C6 16D63 16D67-16D6A"),
   (["ZWJ"], fun _ => zeroWidthJoiner)]

/-- Marks in front of a number that they are about. -/
def numberSigns : CharSet :=
  (tabulated "Prepended_Concatenation_Mark").diff (.ofPoint 0x70F)

/-- Digits, and what is taken for one between or in front of digits. -/
def numeric : CharSet :=
  .unions [Category.set .nd, .ofText "66B 19DA", numberSigns]

def katakana : CharSet :=
  ((scriptNamed? "Kana").getD .nothing).union (.ofText "3031-3035 309B-309C 30A0 30FC FF70")

def hebrewLetters : CharSet :=
  ((scriptNamed? "Hebr").getD .nothing).inter (Category.set .lo)

/-- Letters of scripts that are written without spaces between words. -/
def unspacedLetters : CharSet :=
  .ofText "E01-E3A E40-E4E E81-EB9 EBB-EBD EC0-EC4 EC6 ECD EDC-EDF 1000-103F 1050-108F 109A-109F
    1780-17D3 17D7 17DC 1950-196D 1970-1974 1980-19AB 19B0-19C9 1A20-1A5E 1A61-1A74 1AA7 A9E0-A9EF
    A9FA-A9FE AA60-AAC2 AADB-AADF 11700-1171A 1171D-1172A 11740-11746"

def wordLetters : CharSet :=
  (alphabetic.union (.ofText "2C2-2C5 2D2-2D7 2DE-2DF 2E5-2EB 2ED 2EF-2FF 55A-55C 55E 58A 5F3
    70F A708-A716 A720-A721 A789-A78A AB5B")).diff
    (.unions [tabulated "Ideographic", katakana, unspacedLetters, extending, hebrewLetters,
      (scriptNamed? "Hira").getD .nothing])

def wordBreaks : ValueTable :=
  [(["CR"], fun _ => .ofPoint 0xD),
   (["DQ", "Double_Quote"], fun _ => .ofPoint 0x22),
   (["EX", "ExtendNumLet"], fun _ => (Category.set .pc).union (.ofPoint 0x202F)),
   (["Extend"], fun _ => extending),
   (["FO", "Format"], fun _ =>
     (Category.set .cf).diff (.unions [extending, prepended, .ofText "200B-200D"])),
   (["HL", "Hebrew_Letter"], fun _ => hebrewLetters),
   (["KA", "Katakana"], fun _ => katakana),
   (["LE", "ALetter"], fun _ => wordLetters),
   (["LF"], fun _ => .ofPoint 0xA),
   (["MB", "MidNumLet"], fun _ => .ofText "2E 2018-2019 2024 FE52 FF07 FF0E"),
   (["ML", "MidLetter"], fun _ => .ofText "3A B7 387 55F 5F4 2027 FE13 FE55 FF1A"),
   (["MN", "MidNum"], fun _ =>
     .ofText "2C 3B 37E 589 60C-60D 66C 7F8 2044 FE50 FE54 FF0C FF1B"),
   (["NL", "Newline"], fun _ => .ofText "B-C 85 2028-2029"),
   (["NU", "Numeric"], fun _ => numeric),
   (["RI", "Regional_Indicator"], fun _ => tabulated "Regional_Indicator"),
   (["SQ", "Single_Quote"], fun _ => .ofPoint 0x27),
   (["WSegSpace"], fun _ => (Category.set .zs).diff (.ofText "A0 2007 202F")),
   (["ZWJ"], fun _ => zeroWidthJoiner)]

def sentenceExtending : CharSet :=
  (graphemeExtend.union (Category.set .mc)).union zeroWidthJoiner

/-- Georgian letters have no case in sentences. -/
def sentenceLower : CharSet :=
  lowercase.diff (graphemeExtend.union (.ofText "10D0-10FA 10FD-10FF"))

def sentenceUpper : CharSet :=
  (uppercase.union (Category.set .lt)).diff (.ofText "1C90-1CBA 1CBD-1CBF")

/-- Full stops, which can also stand inside sentences. -/
def ambiguousTerminators : CharSet := .ofText "2E 2024 FE52 FF0E"

def sentenceBreaks : ValueTable :=
  [(["AT", "ATerm"], fun _ => ambiguousTerminators),
   (["CL", "Close"], fun _ =>
     (Category.setOf [.ps, .pe, .pi, .pf]).union
       (.ofText "22 27 275B-2760 2E00-2E01 2E06-2E08 2E0B 1F676-1F678")),
   (["CR"], fun _ => .ofPoint 0xD),
   (["EX", "Extend"], fun _ => sentenceExtending),
   (["FO", "Format"], fun _ => (Category.set .cf).diff (sentenceExtending.union numberSigns)),
   (["LE", "OLetter"], fun _ =>
     (alphabetic.union (.ofPoint 0x5F3)).diff
       (.unions [sentenceLower, sentenceUpper, sentenceExtending])),
   (["LF"], fun _ => .ofPoint 0xA),
   (["LO", "Lower"], fun _ => sentenceLower),
   (["NU", "Numeric"], fun _ => numeric.union (.ofPoint 0x66C)),
   (["SC", "SContinue"], fun _ =>
     .ofText "2C-2D 3A-3B 37E 55D 60C-60D 7F8 1802 1808 2013-2014 3001 FE10-FE11 FE13-FE14
       FE31-FE32 FE50-FE51 FE54-FE55 FE58 FE63 FF0C-FF0D FF1A-FF1B FF64"),
   (["SE", "Sep"], fun _ => .ofText "85 2028-2029"),
   (["SP", "Sp"], fun _ => (tabulated "White_Space").diff (.ofText "A D 85 2028-2029")),
   (["ST", "STerm"], fun _ => (tabulated "Sentence_Terminal").diff ambiguousTerminators),
   (["UP", "Upper"], fun _ => sentenceUpper)]

def graphemeBreakNamed? : String → Option CharSet := graphemeBreaks.named?

def wordBreakNamed? : String → Option CharSet := wordBreaks.named?

def sentenceBreakNamed? : String → Option CharSet := sentenceBreaks.named?

end HaxeTypedefs
