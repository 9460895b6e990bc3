import RuleExpr.Signature
import RuleExpr.OrderedMap
import RuleExpr.Time.Timestamp

/-!
# Tokens

A token is at once a piece of a program, a value, and the form in which data is bound: an atom, a list, a map, or a
block. A block is an unevaluated call, or with an empty head a grouping.
-/

namespace RuleExpr

/-- A piece of program or data. -/
inductive Token where
  | decimal (value : Decimal)
  | string (text : String)
  | boolean (value : Bool)
  | time (stamp : Timestamp)
  | null
  | list (items : List Token)
  | map (entries : List (String × Token))
  | block (head : String) (children : List Token)

namespace Token

instance : Inhabited Token := ⟨null⟩

/-- The primitive kind of a token. -/
def kind : Token → Kind
  | decimal _ => Kind.decimal
  | string _ => Kind.string
  | boolean _ => Kind.boolean
  | time _ => Kind.time
  | null => Kind.null
  | list _ => Kind.list
  | map _ => Kind.map
  | block .. => Kind.token

/-- The block without head and children. -/
def emptyBlock : Token := block "" []

/-- Whether the token is a block. -/
def isBlock : Token → Bool
  | block .. => true
  | _ => false

/-- Whether the token is null. -/
def isNull : Token → Bool
  | null => true
  | _ => false

/-- All but `false` and null hold. -/
def isTruthy : Token → Bool
  | boolean false => false
  | null => false
  | _ => true

/-- The elements of a list, the values of a map, the children of a block. -/
def children : Token → List Token
  | list items => items
  | map entries => Entries.values entries
  | block _ children => children
  | _ => []

/-- The keys of a map. -/
def keys : Token → List String
  | map entries => Entries.keys entries
  | _ => []

/-! ## Depth -/

mutual

/-- The number of levels of nesting, 1 for an atom. -/
def depth : Token → Nat
  | list items => depthOfList items + 1
  | map entries => depthOfEntries entries + 1
  | block _ children => depthOfList children + 1
  | _ => 1

/-- The greatest depth in a list. -/
def depthOfList : List Token → Nat
  | [] => 0
  | t :: ts => max (depth t) (depthOfList ts)

/-- The greatest depth of the values of a map. -/
def depthOfEntries : List (String × Token) → Nat
  | [] => 0
  | (_, t) :: ts => max (depth t) (depthOfEntries ts)

end

end Token

end RuleExpr
