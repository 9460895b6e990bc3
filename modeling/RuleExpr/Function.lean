import RuleExpr.Builtin.Basic
import RuleExpr.Template

/-!
# Functions

A function is a signature with a body. The body is a built-in, or comes from the host: a host function turns its
arguments into a program, which asks the interpreter for one thing after the other and ends with a result.
-/

namespace RuleExpr

/-- The settings that all scopes of an interpreter share. -/
structure Config where
  maxDepth : Nat := 256
  dryRun : Bool := false
  divisionPrecision : Nat := Decimal.defaultPrecision
  deriving DecidableEq

mutual

/-- What a function does with its arguments. -/
inductive Body where
  | builtin (op : Builtin)
  | host (run : List Token → Program)

/-- What a host function does: requests to the scope of the call, each with what follows its answer. -/
inductive Program where
  | done (result : Except Error Token)
  | evaluate (token : Token) (next : Except Error Token → Program)
  | validate (token : Token) (next : Except Error Unit → Program)
  | read (path : List String) (next : Except Error Token → Program)
  | write (path : List String) (value : Token) (next : Except Error Unit → Program)
  | get (key : String) (next : Token → Program)
  | set (key : String) (value : Token) (next : Except Error Unit → Program)
  | binding (next : Token → Program)
  | setBinding (value : Token) (next : Program)
  | config (next : Config → Program)
  | functions (next : List Signature → Program)
  | templates (next : List Signature → Program)
  | registerFunction (signature : Signature) (body : Body) (next : Except Error Unit → Program)
  | updateFunction (signature : Signature) (body : Body) (next : Except Error Unit → Program)
  | removeFunction (signature : Signature) (next : Except Error Unit → Program)
  | registerTemplate (template : Template) (next : Except Error Unit → Program)
  | updateTemplate (template : Template) (next : Except Error Unit → Program)
  | removeTemplate (signature : Signature) (next : Except Error Unit → Program)
  | inScope (inner : Program) (next : Except Error Token → Program)

end

/-- A signature with a body. -/
structure Function where
  signature : Signature
  body : Body

end RuleExpr
