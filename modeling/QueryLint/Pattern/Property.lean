import QueryLint.Pattern.CharSet
import QueryLint.Pattern.Syntax
import QueryLint.Unicode.Age
import QueryLint.Unicode.Binary
import QueryLint.Unicode.Boundary
import QueryLint.Unicode.PropertyName
import QueryLint.Unicode.Script

/-! The sets that property and class names stand for. -/

set_option autoImplicit false

namespace QueryLint.Pattern

open Unicode (Category NamedSet)

namespace Property

/-- Case, blanks, hyphens and underscores in a name do not count, nor does a leading `is`. -/
def normalize (name : String) : String :=
  let clean (cs : List Char) : List Char :=
    (cs.filter fun c => c ≠ ' ' && c ≠ '_' && c ≠ '-' && c.toNat < 0x80).map Char.toLower
  match name.toList with
  | i :: s :: rest =>
    if (i = 'i' || i = 'I') && (s = 's' || s = 'S') then
      let body := String.ofList (clean rest)
      if body = "c" then "isc" else body
    else String.ofList (clean (i :: s :: rest))
  | cs => String.ofList (clean cs)

/-- Which categories the name of a category, or of a group of them, covers. -/
def categories? : String → Option (Category → Bool)
  | "l" | "letter" => some Category.isLetter
  | "lc" | "casedletter" => some fun c => c == .lu || c == .ll || c == .lt
  | "lu" | "uppercaseletter" => some (· == .lu)
  | "ll" | "lowercaseletter" => some (· == .ll)
  | "lt" | "titlecaseletter" => some (· == .lt)
  | "lm" | "modifierletter" => some (· == .lm)
  | "lo" | "otherletter" => some (· == .lo)
  | "m" | "mark" | "combiningmark" => some Category.isMark
  | "mn" | "nonspacingmark" => some (· == .mn)
  | "mc" | "spacingmark" => some (· == .mc)
  | "me" | "enclosingmark" => some (· == .me)
  | "n" | "number" => some Category.isNumber
  | "nd" | "decimalnumber" | "digit" => some (· == .nd)
  | "nl" | "letternumber" => some (· == .nl)
  | "no" | "othernumber" => some (· == .no)
  | "p" | "punctuation" | "punct" => some fun
    | .pc | .pd | .ps | .pe | .pi | .pf | .po => true
    | _ => false
  | "pc" | "connectorpunctuation" => some (· == .pc)
  | "pd" | "dashpunctuation" => some (· == .pd)
  | "ps" | "openpunctuation" => some (· == .ps)
  | "pe" | "closepunctuation" => some (· == .pe)
  | "pi" | "initialpunctuation" => some (· == .pi)
  | "pf" | "finalpunctuation" => some (· == .pf)
  | "po" | "otherpunctuation" => some (· == .po)
  | "s" | "symbol" => some fun
    | .sm | .sc | .sk | .so => true
    | _ => false
  | "sm" | "mathsymbol" => some (· == .sm)
  | "sc" | "currencysymbol" => some (· == .sc)
  | "sk" | "modifiersymbol" => some (· == .sk)
  | "so" | "othersymbol" => some (· == .so)
  | "z" | "separator" => some fun
    | .zs | .zl | .zp => true
    | _ => false
  | "zs" | "spaceseparator" => some (· == .zs)
  | "zl" | "lineseparator" => some (· == .zl)
  | "zp" | "paragraphseparator" => some (· == .zp)
  | "c" | "other" => some fun
    | .cc | .cf | .cs | .co | .cn => true
    | _ => false
  | "cc" | "control" | "cntrl" => some (· == .cc)
  | "cf" | "format" => some (· == .cf)
  | "co" | "privateuse" => some (· == .co)
  | "cn" | "unassigned" => some (· == .cn)
  | "assigned" => some (· != .cn)
  | _ => none

def category? (name : String) : Option CharSet :=
  match name with
  | "any" => some [(0, 0x10ffff)]
  | "ascii" => some [(0, 0x7f)]
  | _ => (categories? name).map fun chosen => .ofRanges (Category.ranges chosen)

/-- Characters that extend the one before them. -/
def graphemeExtend : CharSet :=
  .ofRanges (Category.ranges (fun c => c == .mn || c == .me) ++ Unicode.extendingRanges)

/-- A property of the tables; no characters if there is none of that name. -/
def listed (table : List NamedSet) (name : String) : CharSet :=
  .ofRanges ((NamedSet.lookup? table name).getD [])

def lowercase : CharSet :=
  .ofRanges (Category.ranges (· == .ll) ++ Unicode.lowerMarks)

def uppercase : CharSet :=
  .ofRanges (Category.ranges (· == .lu) ++ Unicode.upperMarks)

def alphabetic : CharSet :=
  .ofRanges (Category.ranges (fun c => c.isLetter || c == .nl) ++ Unicode.alphabeticMarks)

/-- Characters with a meaning in the syntax of patterns. -/
def patternSyntax : CharSet :=
  (listed Unicode.binaryProperties "patsyn").union (listed Unicode.binaryProperties "patws")

/-- Characters that may start an identifier. -/
def identifierStart : CharSet :=
  (CharSet.ofRanges (Category.ranges fun c => c.isLetter || c == .nl)
    |>.union (listed Unicode.binaryProperties "oids")).difference patternSyntax

/-- Characters that may stand in an identifier. -/
def identifierPart : CharSet :=
  (CharSet.ofRanges (Category.ranges fun
      | .mn | .mc | .nd | .pc => true
      | _ => false)
    |>.union identifierStart
    |>.union (listed Unicode.binaryProperties "oidc")).difference patternSyntax

/-- Characters that are no part of an identifier once compatible characters are unified. -/
def incompatible : CharSet :=
  .ofRanges (Unicode.Ranges.ofText "37a 309b-309c fc5e-fc63 fdfa-fdfb fe70-fe7e/2")

/-- Characters that cannot start an identifier once compatible characters are unified. -/
def incompatibleStart : CharSet :=
  incompatible.union (.ofRanges (Unicode.Ranges.ofText "e33 eb3 ff9e-ff9f"))

/-- Characters without case that do not end a word in case conversion. -/
def caseIgnorable : CharSet :=
  CharSet.ofRanges <| Category.ranges (fun
      | .mn | .me | .cf | .lm | .sk => true
      | _ => false) ++
    Unicode.Ranges.ofText "27 2e 3a b7 387 55f 5f4 2018-2019 2024 2027 fe13 fe52 fe55 ff07 ff0e ff1a"

/-- Characters that are not drawn onto another and are no control codes. -/
def graphemeBase : CharSet :=
  CharSet.complement <| graphemeExtend.union <| .ofRanges <| Category.ranges fun
    | .cc | .cf | .cs | .co | .cn | .zl | .zp => true
    | _ => false

/-- Properties that a character has or has not. -/
def binary? : String → Option CharSet
  | "alphabetic" | "alpha" => some alphabetic
  | "whitespace" | "wspace" | "space" => some (.ofRanges Unicode.blankRanges)
  | "lowercase" | "lower" => some lowercase
  | "uppercase" | "upper" => some uppercase
  | "cased" => some <| (lowercase.union uppercase).union (.ofRanges (Category.ranges (· == .lt)))
  | "caseignorable" | "ci" => some caseIgnorable
  | "graphemebase" | "grbase" => some graphemeBase
  | "graphemeextend" | "grext" => some graphemeExtend
  | "idstart" | "ids" => some identifierStart
  | "idcontinue" | "idc" => some identifierPart
  | "xidstart" | "xids" => some (identifierStart.difference incompatibleStart)
  | "xidcontinue" | "xidc" => some (identifierPart.difference incompatible)
  | "math" => some <|
    (CharSet.ofRanges (Category.ranges (· == .sm))).union (listed Unicode.binaryProperties "omath")
  | "otheralphabetic" | "oalpha" => some (.ofRanges Unicode.alphabeticMarks)
  | "othergraphemeextend" | "ogrext" => some (.ofRanges Unicode.extendingRanges)
  | "otherlowercase" | "olower" => some (.ofRanges Unicode.lowerMarks)
  | "otheruppercase" | "oupper" => some (.ofRanges Unicode.upperMarks)
  | name => (NamedSet.lookup? Unicode.binaryProperties name).map .ofRanges

/-- Characters of a script. -/
def script? (name : String) : Option CharSet :=
  (NamedSet.lookup? Unicode.scripts name).map .ofRanges

/-- Characters in use in a script: those of the script that are not shared, and those shared with
it. -/
def scriptUse? (name : String) : Option CharSet :=
  (Unicode.scripts.find? (·.names.contains name)).map fun script =>
    let shared := CharSet.ofRanges (Unicode.sharedCharacters.flatMap NamedSet.ranges)
    let used := Unicode.sharedCharacters.filter fun set =>
      set.names.any (script.names.head? == some ·)
    ((CharSet.ofRanges script.ranges).difference shared).union
      (.ofRanges (used.flatMap NamedSet.ranges))

/-- Characters assigned in a version of the standard or an earlier one. -/
def age? (name : String) : Option CharSet :=
  let newer := Unicode.ages.dropWhile fun set => !set.names.contains name
  if newer.isEmpty then none
  else some <| .ofRanges <|
    (Unicode.ages.take (Unicode.ages.length - newer.length + 1)).flatMap NamedSet.ranges

/-- Characters that extend the one before them, and emoji modifiers, which do so too. -/
def extend : CharSet :=
  graphemeExtend.union (listed Unicode.binaryProperties "emod")

/-- Syllables of a leading consonant and a vowel. -/
def openSyllables : CharSet :=
  listed Unicode.graphemeRoles "lv"

def graphemeRole? : String → Option CharSet
  | "extend" | "ex" => some extend
  | "lvt" => some (CharSet.difference [(0xac00, 0xd7a3)] openSyllables)
  | name => (NamedSet.lookup? Unicode.graphemeRoles name).map .ofRanges

/-- Spacing marks. -/
def spacingMarks : CharSet :=
  .ofRanges (Category.ranges (· == .mc))

def wordRole? : String → Option CharSet
  | "extend" => some (extend.union spacingMarks)
  | name => (NamedSet.lookup? Unicode.wordRoles name).map .ofRanges

/-- Marks, and the joiner, inside a sentence. -/
def sentenceExtend : CharSet :=
  (graphemeExtend.union spacingMarks).union (.single 0x200d)

/-- Lower-case characters; Georgian letters count as letters without case here. -/
def sentenceLower : CharSet :=
  (lowercase.difference graphemeExtend).difference [(0x10d0, 0x10fa), (0x10fd, 0x10ff)]

/-- Upper-case and title-case characters, again without Georgian letters. -/
def sentenceUpper : CharSet :=
  (uppercase.union (.ofRanges (Category.ranges (· == .lt)))).difference
    [(0x1c90, 0x1cba), (0x1cbd, 0x1cbf)]

def sentenceRole? : String → Option CharSet
  | "extend" | "ex" => some sentenceExtend
  | "lower" | "lo" => some sentenceLower
  | "upper" | "up" => some sentenceUpper
  | "oletter" | "le" => some <|
    ((alphabetic.union [(0x5f3, 0x5f3), (0x70f, 0x70f)]).difference sentenceExtend).difference
      (sentenceLower.union sentenceUpper)
  | "sterm" | "st" => some <|
    (listed Unicode.binaryProperties "sterm").difference (listed Unicode.sentenceRoles "aterm")
  | name => (NamedSet.lookup? Unicode.sentenceRoles name).map .ofRanges

/-- Names of categories and scripts that have no characters: surrogates are none, a character of no
known script is not listed, and the joint script of the Japanese syllabaries is empty. -/
def vacantNames : List String :=
  ["cs", "surrogate", "zzzz", "unknown", "hrkt", "katakanaorhiragana"]

/-- The sets of the values of a property that has more than two, by the property's name. -/
def values? : String → Option (String → Option CharSet)
  | "generalcategory" | "gc" => some category?
  | "script" | "sc" => some script?
  | "scriptextensions" | "scx" => some scriptUse?
  | "age" => some age?
  | "graphemeclusterbreak" | "gcb" => some graphemeRole?
  | "wordbreak" | "wb" => some wordRole?
  | "sentencebreak" | "sb" => some sentenceRole?
  | _ => none

/-- The set a property query asks for. -/
def lookup : PropertyQuery → Except Fault CharSet
  | .named name =>
    let name := normalize name
    match ((binary? name).or (category? name)).or (script? name) with
    | some set => .ok set
    | none =>
      if vacantNames.contains name then .error .propertyValueNotFound
      else .error .propertyNotFound
  | .valued name value =>
    let name := normalize name
    match values? name with
    | some sets =>
      match sets (normalize value) with
      | some set => .ok set
      | none => .error .propertyValueNotFound
    | none =>
      if Unicode.propertyNames.contains name then .error .propertyValueNotFound
      else .error .propertyNotFound

end Property

def AsciiClass.set : AsciiClass → CharSet
  | .alnum => [(0x30, 0x39), (0x41, 0x5a), (0x61, 0x7a)]
  | .alpha => [(0x41, 0x5a), (0x61, 0x7a)]
  | .ascii => [(0x00, 0x7f)]
  | .blank => [(0x09, 0x09), (0x20, 0x20)]
  | .cntrl => [(0x00, 0x1f), (0x7f, 0x7f)]
  | .digit => [(0x30, 0x39)]
  | .graph => [(0x21, 0x7e)]
  | .lower => [(0x61, 0x7a)]
  | .print => [(0x20, 0x7e)]
  | .punct => [(0x21, 0x2f), (0x3a, 0x40), (0x5b, 0x60), (0x7b, 0x7e)]
  | .space => [(0x09, 0x0d), (0x20, 0x20)]
  | .upper => [(0x41, 0x5a)]
  | .word => [(0x30, 0x39), (0x41, 0x5a), (0x5f, 0x5f), (0x61, 0x7a)]
  | .xdigit => [(0x30, 0x39), (0x41, 0x46), (0x61, 0x66)]

def PerlClass.set : PerlClass → CharSet
  | .digit => .ofRanges (Category.ranges (· == .nd))
  | .space => .ofRanges Unicode.blankRanges
  | .word => .ofRanges Unicode.wordRanges

def PerlClass.asciiSet : PerlClass → CharSet
  | .digit => AsciiClass.digit.set
  | .space => AsciiClass.space.set
  | .word => AsciiClass.word.set

end QueryLint.Pattern
