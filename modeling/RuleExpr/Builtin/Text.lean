import RuleExpr.Function
import RuleExpr.Arguments
import RuleExpr.Text.Cluster
import RuleExpr.Token.Order
import RuleExpr.Token.Render
import RuleExpr.Pattern.Search

/-!
# Strings

Concatenation, search, patterns, words and parts of strings. Length and reversal go by grapheme clusters.
-/

namespace RuleExpr.TextOperation

open RuleExpr.Text

/-- The texts of the tokens, one after the other. -/
def concatenated (args : List Token) : String := "".intercalate (args.map Token.text)

/-- Whether a string has another one in it. -/
def hasPart (s part : String) : Bool := occursIn part.toList s.toList

/-- The only argument as a string. -/
def onString (function : String) (op : String → Token) (args : List Token) : Except Error Token := do
  let a ← Arguments.one function args
  let s ← Arguments.string function a
  .ok (op s)

/-- The two arguments as strings. -/
def onStrings (function : String) (op : String → String → Except Error Token) (args : List Token) :
    Except Error Token := do
  let (a, b) ← Arguments.two function args
  let s ← Arguments.string function a
  let t ← Arguments.string function b
  op s t

/-- Whether the string has one of the tokens, which have to be strings, in it. -/
def hasSome (s : String) : List Token → Except Error Bool
  | [] => .ok false
  | t :: ts => do
    let part ← Arguments.string "contains" t
    let rest ← hasSome s ts
    .ok (hasPart s part || rest)

/-- Whether the first string has one of the others in it. -/
def containsSome : List Token → Except Error Token
  | [] => .error (.arity "contains" 0)
  | a :: args => do
    let s ← Arguments.string "contains" a
    let b ← hasSome s args
    .ok (.boolean b)

/-- Whether a value holds another one: as a part, an element or a key, or else by being equal to it. -/
def holds (needle : Token) : Token → Except Error Bool
  | .string s => .ok (hasPart s needle.text)
  | .list items => items.anyM fun t => t.looseEqual needle
  | .map entries => .ok (Entries.hasKey entries needle.text)
  | other => other.looseEqual needle

/-- Whether none of the later values holds the first. -/
def containedInNone : List Token → Except Error Token
  | [] => .error (.arity "notContains" 0)
  | needle :: args => do
    let held ← args.anyM (holds needle)
    .ok (.boolean !held)

/-- The words of a string. -/
def wordsOf (s : String) : List String := (words s.toList).map String.ofList

/-- The parts of a string between separators, each read as an atom. -/
def parts (s separator : String) : Except Error Token :=
  if separator.isEmpty then .error (.invalidArgument .emptySeparator)
  else do
    let atoms ← (splitOn separator.toList s.toList).mapM fun part => Token.infer (String.ofList part)
    .ok (.list atoms)

/-- What an operation on strings gives. -/
def run : TextOperation → List Token → Except Error Token
  | concat, args => .ok (.string (concatenated args))
  | .contains, args => containsSome args
  | .notContains, args => containedInNone args
  | startsWith, args => onStrings "startsWith" (fun s t => .ok (.boolean (t.toList.isPrefixOf s.toList))) args
  | endsWith, args => onStrings "endsWith" (fun s t => .ok (.boolean (t.toList.isSuffixOf s.toList))) args
  | matchesPattern, args =>
    onStrings "~" (fun s pattern =>
      match Pattern.parse? pattern with
      | some p => .ok (.boolean (p.occursIn s))
      | none => .error (.invalidArgument .invalidPattern)) args
  | firstName, args => onString "firstName" (fun s => .string ((wordsOf s).headD "")) args
  | lastName, args => onString "lastName" (fun s => .string ((wordsOf s).getLastD "")) args
  | .split, args => onStrings "split" parts args
  | count, args => onString "count" (fun s => .decimal (.ofInt (clusters s.toList).length)) args
  | reverse, args => onString "reverse" (fun s => .string (String.ofList (clusters s.toList).reverse.flatten)) args

/-- The part of the catalogue for strings, in order of registration. -/
def catalogue : List Function :=
  let entry (signature : Signature) (op : TextOperation) : Function := ⟨signature, .builtin (.text op)⟩
  let s := Kind.string
  let b := Kind.boolean
  let atom := Kind.atom
  [entry ⟨"concat", [atom], true, s, "Concatenated text of the arguments", "(concat \"a\" 1 true)"⟩ concat,
    entry ⟨"+", [s, atom], true, s, "A string followed by the text of the other arguments", "(+ \"Total: \" 42)"⟩
      concat,
    entry ⟨"contains", [s, s], true, b, "Whether the first string contains any of the others",
      "(contains \"Hello World\" \"World\")"⟩ .contains,
    entry ⟨"notContains", [atom, Kind.value], true, b, "Whether none of the later arguments contains the first",
      "(notContains \"x\" \"abc\" \"def\")"⟩ .notContains,
    entry ⟨"startsWith", [s, s], false, b, "Whether the string starts with the prefix",
      "(startsWith \"Hello\" \"He\")"⟩ startsWith,
    entry ⟨"endsWith", [s, s], false, b, "Whether the string ends with the suffix", "(endsWith \"Hello\" \"lo\")"⟩
      endsWith,
    entry ⟨"~", [s, s], false, b, "Whether the regular expression matches the string",
      "(~ \"order-1234\" \"^order-[0-9]+$\")"⟩ matchesPattern,
    entry ⟨"firstName", [s], false, s, "First word of a full name", "(firstName \"Ada King Lovelace\")"⟩ firstName,
    entry ⟨"lastName", [s], false, s, "Last word of a full name", "(lastName \"Ada King Lovelace\")"⟩ lastName,
    entry ⟨"split", [s, s], false, Kind.list, "Parts of the string between separators", "(split \"a,b\" \",\")"⟩ .split,
    entry ⟨"count", [s], false, Kind.decimal, "Number of characters as a reader perceives them", "(count \"héllo\")"⟩
      count,
    entry ⟨"reverse", [s], false, s, "The characters in reverse order", "(reverse \"abc\")"⟩ reverse]

end RuleExpr.TextOperation
