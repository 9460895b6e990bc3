import RuleExpr.Text.AsciiCase
import RuleExpr.Text.Blank
import RuleExpr.Text.Search

/-!
# Kinds

A kind is a set of the eight primitive kinds of tokens. Parameters and results are declared with kinds: a parameter
accepts an argument when the two kinds have a primitive in common (`Kind.accepts`), and a parameter that accepts
`token` takes its argument unevaluated (`Kind.quotes`).

- `Kind.name` is the written form: a named union, or the primitives with bars between them;
- `Kind.parse` reads names in any case with bars between them.
-/

namespace RuleExpr

open RuleExpr.Text

/-- A set of primitive kinds, one bit for each. -/
structure Kind where
  mask : BitVec 8
  deriving DecidableEq

namespace Kind

/-- A decimal number. -/
def decimal : Kind := ⟨1⟩

/-- A string. -/
def string : Kind := ⟨2⟩

/-- A truth value. -/
def boolean : Kind := ⟨4⟩

/-- A timestamp. -/
def time : Kind := ⟨8⟩

/-- The absent value. -/
def null : Kind := ⟨16⟩

/-- A list. -/
def list : Kind := ⟨32⟩

/-- A map. -/
def map : Kind := ⟨64⟩

/-- An unevaluated block. -/
def token : Kind := ⟨128⟩

/-- The kind of nothing. -/
def empty : Kind := ⟨0⟩

/-- The union of two kinds. -/
def union (a b : Kind) : Kind := ⟨a.mask ||| b.mask⟩

/-- A value without parts: a decimal, string, truth value, timestamp or null. -/
def atom : Kind := ⟨31⟩

/-- A list or a map. -/
def collection : Kind := ⟨96⟩

/-- Every evaluated value: all but a block. -/
def value : Kind := ⟨127⟩

/-- Every token. -/
def any : Kind := ⟨255⟩

/-- Whether the kinds have a primitive in common. -/
def accepts (parameter argument : Kind) : Bool := parameter.mask &&& argument.mask != 0

/-- Whether an argument for this kind stays unevaluated. -/
def quotes (k : Kind) : Bool := k.mask &&& token.mask != 0

/-- Whether every primitive of `other` is one of this kind. -/
def includes (k other : Kind) : Bool := k.mask &&& other.mask == other.mask

/-! ## Names -/

/-- The primitive kinds with their names, in the order in which they are written. -/
def primitives : List (Kind × String) :=
  [(decimal, "Decimal"), (string, "String"), (boolean, "Boolean"), (time, "Time"), (null, "Null"), (list, "List"),
    (map, "Map"), (token, "Token")]

/-- The unions that have a name of their own. -/
def aliases : List (Kind × String) :=
  [(any, "Any"), (value, "Value"), (atom, "Atom"), (collection, "Collection")]

/-- The written form of a kind. -/
def name (k : Kind) : String :=
  match aliases.find? (fun entry => entry.1 == k) with
  | some entry => entry.2
  | none =>
    if k = empty then "None"
    else "|".intercalate ((primitives.filter (fun entry => k.includes entry.1)).map Prod.snd)

instance : ToString Kind := ⟨name⟩

/-- The kind with the given name, in any case. -/
def ofName? (text : String) : Option Kind :=
  ((primitives ++ aliases).find? (fun entry => sameFolded entry.2 text)).map Prod.fst

/-- The union of the named kinds, or the first name that is unknown. -/
def ofNames : List String → Except String Kind
  | [] => .ok empty
  | part :: parts =>
    match ofName? part with
    | none => .error part
    | some k => (ofNames parts).map (union k)

/-- Reads names with bars between them; the fault is the first unknown name. -/
def parse (text : String) : Except String Kind :=
  ofNames ((splitOn ['|'] text.toList).map (fun part => String.ofList (trim part)))

end Kind

end RuleExpr
