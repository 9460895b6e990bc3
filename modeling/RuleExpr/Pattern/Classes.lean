import RuleExpr.Text.CaseOrbit
import RuleExpr.Text.Category
import RuleExpr.Text.Script
import RuleExpr.Text.ScriptExtension
import RuleExpr.Text.Property
import RuleExpr.Text.Age
import RuleExpr.Text.Break

/-!
# Named sets of characters

The sets that a pattern can name: digits, white space and word characters; the classes of ASCII; and general
categories, scripts, ages, break classes and properties of Unicode, whose names are compared without regard to case,
blanks, hyphens and underscores.

- `CharSet.named?` finds a set by its name alone, `CharSet.valued?` by a key and a value.
-/

namespace RuleExpr.CharSet

open RuleExpr.Text

/-! ## ASCII -/

/-- The digits of ASCII. -/
def asciiDigit : RangeSet := .range 0x30 0x39

/-- The letters of ASCII. -/
def asciiAlpha : RangeSet := .ofList [(0x41, 0x5A), (0x61, 0x7A)]

/-- The letters and digits of ASCII. -/
def asciiAlnum : RangeSet := asciiDigit.union asciiAlpha

/-- The word characters of ASCII. -/
def asciiWord : RangeSet := asciiAlnum.union (.range 0x5F 0x5F)

/-- The white space of ASCII. -/
def asciiSpace : RangeSet := .ofList [(0x09, 0x0D), (0x20, 0x20)]

/-- The class of ASCII characters with a name. -/
def asciiClass? : String → Option RangeSet
  | "alnum" => some asciiAlnum
  | "alpha" => some asciiAlpha
  | "ascii" => some .ascii
  | "blank" => some (.ofList [(0x09, 0x09), (0x20, 0x20)])
  | "cntrl" => some (.ofList [(0x00, 0x1F), (0x7F, 0x7F)])
  | "digit" => some asciiDigit
  | "graph" => some (.range 0x21 0x7E)
  | "lower" => some (.range 0x61 0x7A)
  | "print" => some (.range 0x20 0x7E)
  | "punct" => some (.ofList [(0x21, 0x2F), (0x3A, 0x40), (0x5B, 0x60), (0x7B, 0x7E)])
  | "space" => some asciiSpace
  | "upper" => some (.range 0x41 0x5A)
  | "word" => some asciiWord
  | "xdigit" => some (.ofList [(0x30, 0x39), (0x41, 0x46), (0x61, 0x66)])
  | _ => none

/-! ## Unicode -/

/-- A name in lower case without blanks, hyphens and underscores, and without `is` in front. -/
def looseName (name : String) : String :=
  let chars := name.toList
  let isPrefixed := ['i', 's'].isPrefixOf ((chars.take 2).map Char.toLower)
  let kept := (if isPrefixed then chars.drop 2 else chars).filter fun c =>
    c.toNat < 128 && !(c == ' ' || c == '_' || c == '-')
  let lowered := String.ofList (kept.map Char.toLower)
  if isPrefixed && lowered == "c" then "isc" else lowered

/-- Whether a name is one of some names, up to case, blanks, hyphens and underscores. -/
def isAmong (names : List String) (name : String) : Bool := names.any fun n => looseName n == name

/-- The union of general categories, by their two-letter names. -/
def categories (abbreviations : List String) : RangeSet :=
  .unions (abbreviations.filterMap fun a => (Category.ofAbbreviation? a).map Category.characters)

/-- The characters that are assigned. -/
def assigned : RangeSet := .unions (Category.all.map Category.characters)

/-- The groups of general categories, with their names. -/
def categoryGroups : List (List String × List String) :=
  [(["l", "letter"], ["Lu", "Ll", "Lt", "Lm", "Lo"]),
    (["lc", "casedletter"], ["Lu", "Ll", "Lt"]),
    (["m", "mark", "combiningmark"], ["Mn", "Mc", "Me"]),
    (["n", "number"], ["Nd", "Nl", "No"]),
    (["p", "punctuation", "punct"], ["Pc", "Pd", "Ps", "Pe", "Pi", "Pf", "Po"]),
    (["s", "symbol"], ["Sm", "Sc", "Sk", "So"]),
    (["z", "separator"], ["Zs", "Zl", "Zp"]),
    (["cntrl"], ["Cc"]),
    (["digit"], ["Nd"])]

/-- The general category or group of them with a loose name. There is none for surrogates, which are no characters. -/
def categoryNamed? (name : String) : Option RangeSet :=
  match name with
  | "any" => some (.range 0 0x10FFFF)
  | "assigned" => some assigned
  | "ascii" => some .ascii
  | "cn" | "unassigned" => some assigned.complement
  | "c" | "other" => some (.unions [categories ["Cc", "Cf", "Co"], assigned.complement, .range 0xD800 0xDFFF])
  | _ =>
    match categoryGroups.find? fun g => g.1.contains name with
    | some g => some (categories g.2)
    | none => (Category.all.find? fun c => isAmong [c.abbreviation, c.name] name).map Category.characters

/-- The script with a loose name. -/
def scriptOf? (name : String) : Option Script := Script.all.find? fun s => isAmong (s.name :: s.codes) name

/-- The characters of the script with a loose name. -/
def scriptNamed? (name : String) : Option RangeSet := (scriptOf? name).map fun s => .ofLines s.lines

/-- The characters that are used with the script with a loose name. -/
def scriptUse? (name : String) : Option RangeSet :=
  (scriptOf? name).map fun s =>
    let (used, unused) := SharedCharacters.all.partition fun shared => s.codes.any shared.codes.contains
    let charactersOf (parts : List SharedCharacters) : RangeSet := .unions (parts.map fun p => .ofLines p.lines)
    ((RangeSet.ofLines s.lines).diff (charactersOf unused)).union (charactersOf used)

/-- The set of a property. -/
def ofProperty (p : Property) : RangeSet :=
  ((categories p.categories).union (.ofLines p.extra)).diff (.ofLines p.without)

/-- The property with a loose name among some properties. -/
def propertyAmong? (properties : List Property) (name : String) : Option RangeSet :=
  (properties.find? fun p => isAmong p.names name).map ofProperty

/-- The class for grapheme clusters with a loose name. -/
def clusterClass? (name : String) : Option RangeSet :=
  match name with
  | "lv" => some (.ofList Break.openSyllables)
  | "lvt" => some (.ofList Break.closedSyllables)
  | _ => propertyAmong? Break.clusterClasses name

/-- The characters that are in the version with a loose name, and new in it or an earlier one. -/
def ageUpTo? (name : String) : Option RangeSet :=
  (Age.linesUpTo? (fun names => isAmong names name) Age.all).map fun lines =>
    .ofRanges (RangeSet.ofLines lines).toList

/-- The set with a name: a property, a general category or a script. -/
def named? (name : String) : Option RangeSet :=
  let name := looseName name
  let property := if ["cf", "sc", "lc"].contains name then none else propertyAmong? Property.all name
  (property.or (categoryNamed? name)).or (scriptNamed? name)

/-- The set of the characters whose property `key` has the given value. -/
def valued? (key value : String) : Option RangeSet :=
  let value := looseName value
  match looseName key with
  | "gc" | "generalcategory" => categoryNamed? value
  | "sc" | "script" => scriptNamed? value
  | "scx" | "scriptextensions" => scriptUse? value
  | "age" => ageUpTo? value
  | "gcb" | "graphemeclusterbreak" => clusterClass? value
  | "wb" | "wordbreak" => propertyAmong? Break.wordClasses value
  | "sb" | "sentencebreak" => propertyAmong? Break.sentenceClasses value
  | _ => none

/-! ## Classes with a letter -/

/-- Decimal digits. -/
def unicodeDigit : RangeSet := categories ["Nd"]

/-- White space. -/
def unicodeSpace : RangeSet :=
  .ofList [(0x09, 0x0D), (0x20, 0x20), (0x85, 0x85), (0xA0, 0xA0), (0x1680, 0x1680), (0x2000, 0x200A),
    (0x2028, 0x2029), (0x202F, 0x202F), (0x205F, 0x205F), (0x3000, 0x3000)]

/-- Letters by the property `Alphabetic`. -/
def alphabetic : RangeSet := (propertyAmong? Property.all "alphabetic").getD .empty

/-- Letters, marks, decimal digits, connecting punctuation and joiners. -/
def unicodeWord : RangeSet :=
  .unions [alphabetic, categories ["Mn", "Mc", "Me", "Nd", "Pc"], .range 0x200C 0x200D]

/-- Letters by the property `Alphabetic`, and all numbers. -/
def alphanumeric : RangeSet := alphabetic.union (categories ["Nd", "Nl", "No"])

/-- Whether the code point is a word character. -/
def isWord (ascii : Bool) (n : Nat) : Bool := if ascii then asciiWord.contains n else unicodeWord.contains n

end RuleExpr.CharSet
