import RuleExpr.Function
import RuleExpr.Arguments
import RuleExpr.Token.Order
import RuleExpr.Token.Render

/-!
# Lists

Building lists and taking them apart, membership, sorting, and least, greatest and sum of decimals. Sorting is stable
and needs atoms of one kind.
-/

namespace RuleExpr.ListOperation

/-- Applies an operation to the only list. -/
def onList (function : String) (op : List Token → Except Error Token) (args : List Token) : Except Error Token := do
  let a ← Arguments.one function args
  let items ← Arguments.list function a
  op items

/-- The first argument as a list, and the other arguments. -/
def listFirst (function : String) : List Token → Except Error (List Token × List Token)
  | [] => .error (.arity function 0)
  | a :: args => do
    let items ← Arguments.list function a
    .ok (items, args)

/-- The list without its first elements. -/
def dropFirst (args : List Token) : Except Error Token := do
  let (a, n) ← Arguments.two "drop" args
  let count ← Arguments.index "drop" n
  let items ← Arguments.list "drop" a
  .ok (.list (items.drop count))

/-- The element at an index. -/
def itemAt (args : List Token) : Except Error Token := do
  let (a, n) ← Arguments.two "item" args
  let index ← Arguments.index "item" n
  let items ← Arguments.list "item" a
  match items[index]? with
  | some t => .ok t
  | none => .error (.invalidArgument (.itemOutOfRange index items.length))

/-- The elements that an argument adds: those of a list, or the argument itself. -/
def spliced : Token → List Token
  | .list items => items
  | t => [t]

/-- The number of elements or entries. -/
def size (args : List Token) : Except Error Token := do
  let a ← Arguments.one "count" args
  match a with
  | .list items => .ok (.decimal (.ofInt items.length))
  | .map entries => .ok (.decimal (.ofInt entries.length))
  | other => .error (Arguments.mismatch "count" Kind.collection other)

/-- The texts of the elements with a separator between them. -/
def joined (args : List Token) : Except Error Token := do
  Arguments.atLeast "join" 1 args
  let separator ← match args[1]? with
    | some s => Arguments.string "join" s
    | none => .ok ""
  let items ← Arguments.list "join" (args.headD .null)
  .ok (.string (separator.intercalate (items.map Token.text)))

/-- Whether a value is null, an empty string or an empty collection. -/
def isVoid : Token → Bool
  | .null => true
  | .string s => s.isEmpty
  | .list items => items.isEmpty
  | .map entries => entries.isEmpty
  | _ => false

/-- The elements in ascending order, those that compare equal in their own order. -/
def sorted (function : String) (items : List Token) : Except Error (List Token) :=
  match items with
  | [] => .ok []
  | first :: _ =>
    match items.find? fun t => (Token.compareAtoms first t).isNone with
    | some odd => .error (Arguments.mismatch function first.kind odd)
    | none => .ok (items.mergeSort Token.ordered)

/-- The tokens as decimals. -/
def decimals (function : String) : List Token → Except Error (List Decimal)
  | [] => .ok []
  | t :: ts => do
    let d ← Arguments.decimal function t
    let ds ← decimals function ts
    .ok (d :: ds)

/-- The first of the decimals that no other one beats, where `wins` is the order of a decimal that beats another. -/
def extreme (function : String) (wins : Ordering) : List Decimal → Except Error Token
  | [] => .error (.invalidArgument (.emptyList function))
  | d :: ds => .ok (.decimal (ds.foldl (fun best next => if next.compare best = wins then next else best) d))

/-- The least or greatest of the decimals among the tokens. -/
def extremeOf (function : String) (wins : Ordering) (items : List Token) : Except Error Token := do
  let ds ← decimals function items
  extreme function wins ds

/-- The sum of decimals. -/
def total (ds : List Decimal) : Decimal := ds.foldl Decimal.add 0

/-- Whether one of the values equals an element; what comes after the first such is not compared. -/
def holdsAny (items values : List Token) : Except Error Bool :=
  values.anyM fun v => items.anyM fun t => t.looseEqual v

/-- What a list operation gives. -/
def run : ListOperation → List Token → Except Error Token
  | list, args => .ok (.list args)
  | head, args => onList "head" (fun items => .ok (items.headD .null)) args
  | tail, args => onList "tail" (fun items => .ok (.list (items.drop 1))) args
  | .drop, args => dropFirst args
  | .item, args => itemAt args
  | push, args => do
    let (items, more) ← listFirst "push" args
    .ok (.list (items ++ more))
  | append, args => do
    let (items, more) ← listFirst "append" args
    .ok (.list (items ++ more.flatMap spliced))
  | contains, args => do
    let (items, values) ← listFirst "contains" args
    let held ← holdsAny items values
    .ok (.boolean held)
  | .count, args => size args
  | reverse, args => onList "reverse" (fun items => .ok (.list items.reverse)) args
  | .join, args => joined args
  | isEmpty, args => do
    let a ← Arguments.one "isEmpty" args
    .ok (.boolean (isVoid a))
  | sort, args => onList "sort" (fun items => (sorted "sort" items).map .list) args
  | least, args => extremeOf "min" .lt args
  | greatest, args => extremeOf "max" .gt args
  | leastOf, args => onList "min" (extremeOf "min" .lt) args
  | greatestOf, args => onList "max" (extremeOf "max" .gt) args
  | sum, args => onList "sum" (fun items => (decimals "sum" items).map fun ds => .decimal (total ds)) args

/-- The list part of the catalogue without the iterators, in order of registration. -/
def catalogue : List Function :=
  let entry (signature : Signature) (op : ListOperation) : Function := ⟨signature, .builtin (.list op)⟩
  let l := Kind.list
  let d := Kind.decimal
  let s := Kind.string
  let v := Kind.value
  let b := Kind.boolean
  [entry ⟨"list", [v], true, l, "A list of the arguments", "(list 1 2 3)"⟩ list,
    entry ⟨"head", [l], false, v, "First element of a list, null when empty", "(head (list 1 2))"⟩ head,
    entry ⟨"tail", [l], false, l, "Every element but the first", "(tail (list 1 2 3))"⟩ tail,
    entry ⟨"drop", [l, d], false, l, "The list without its first n elements", "(drop (list 1 2 3) 2)"⟩ .drop,
    entry ⟨"item", [l, d], false, v, "Element at a zero-based index", "(item (list a b c) 1)"⟩ .item,
    entry ⟨"push", [l, v], true, l, "A copy of the list with the values appended", "(push (list 1) 2 3)"⟩ push,
    entry ⟨"append", [l, v], true, l, "A copy of the list with the values appended, splicing lists",
      "(append (list 1) (list 2 3))"⟩ append,
    entry ⟨"contains", [l, v], true, b, "Whether the list holds any of the values", "(contains (list a b) b)"⟩
      contains,
    entry ⟨"count", [Kind.collection], false, d, "Number of elements or entries", "(count (list 1 2))"⟩ .count,
    entry ⟨"reverse", [l], false, l, "The elements in reverse order", "(reverse (list 1 2 3))"⟩ reverse,
    entry ⟨"join", [l], false, s, "Concatenated text of the elements", "(join (list a b))"⟩ .join,
    entry ⟨"join", [l, s], false, s, "Text of the elements joined by a separator", "(join (list a b) \", \")"⟩ .join,
    entry ⟨"isEmpty", [v], false, b, "Whether the value is null, an empty string or an empty collection",
      "(isEmpty (list))"⟩ isEmpty,
    entry ⟨"sort", [l], false, l, "Elements in ascending order; all of one kind", "(sort (list 3 1 2))"⟩ sort,
    entry ⟨"min", [d, d], true, d, "Smallest of the arguments", "(min 3 1 2)"⟩ least,
    entry ⟨"max", [d, d], true, d, "Largest of the arguments", "(max 3 1 2)"⟩ greatest,
    entry ⟨"min", [l], false, d, "Smallest element of a list of decimals", "(min (list 3 1 2))"⟩ leastOf,
    entry ⟨"max", [l], false, d, "Largest element of a list of decimals", "(max (list 3 1 2))"⟩ greatestOf,
    entry ⟨"sum", [l], false, d, "Sum of a list of decimals", "(sum (list 1 2 3))"⟩ sum]

end RuleExpr.ListOperation
