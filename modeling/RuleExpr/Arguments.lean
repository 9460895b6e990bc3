import RuleExpr.Token.Basic
import RuleExpr.Decimal.Integer

/-!
# Arguments of functions

What a function takes out of its arguments: a token of one kind, a whole number as an index, a fixed number of
arguments. A failure names the function.
-/

namespace RuleExpr.Arguments

/-- The failure of a function to which a token of another kind was given. -/
def mismatch (function : String) (expected : Kind) (found : Token) : Error :=
  .kindMismatch function expected found.kind

/-- The decimal of a token. -/
def decimal (function : String) : Token → Except Error Decimal
  | .decimal d => .ok d
  | t => .error (mismatch function Kind.decimal t)

/-- The text of a string token. -/
def string (function : String) : Token → Except Error String
  | .string s => .ok s
  | t => .error (mismatch function Kind.string t)

/-- The timestamp of a token. -/
def time (function : String) : Token → Except Error Timestamp
  | .time s => .ok s
  | t => .error (mismatch function Kind.time t)

/-- The elements of a list token. -/
def list (function : String) : Token → Except Error (List Token)
  | .list items => .ok items
  | t => .error (mismatch function Kind.list t)

/-- A whole number that is not negative, as an index or a count. -/
def index (function : String) (t : Token) : Except Error Nat := do
  let d ← decimal function t
  if !d.isInteger || d.isNegative then .error (.invalidArgument (.notAnIndex function d))
  else d.toSize.mapError .decimal

/-- Refuses fewer than `least` arguments. -/
def atLeast (function : String) (least : Nat) (args : List Token) : Except Error Unit :=
  if args.length < least then .error (.arity function args.length) else .ok ()

/-- The only argument. -/
def one (function : String) : List Token → Except Error Token
  | [a] => .ok a
  | args => .error (.arity function args.length)

/-- The two arguments. -/
def two (function : String) : List Token → Except Error (Token × Token)
  | [a, b] => .ok (a, b)
  | args => .error (.arity function args.length)

/-- The three arguments. -/
def three (function : String) : List Token → Except Error (Token × Token × Token)
  | [a, b, c] => .ok (a, b, c)
  | args => .error (.arity function args.length)

end RuleExpr.Arguments
