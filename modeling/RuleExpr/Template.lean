import RuleExpr.Token.Basic
import RuleExpr.Decimal.Integer

/-!
# Templates

A template is a signature with a body. A block `(# n)` in the body is a placeholder for the argument at index `n`.
`Template.instantiate` replaces placeholders, also those that come in with arguments, in passes over the tree, until a
pass has replaced none or `maxPasses` passes have been made.
-/

namespace RuleExpr

/-- A named tree with placeholders. -/
structure Template where
  signature : Signature
  body : Token

namespace Template

/-- The passes after which an instantiation counts as endless. -/
def maxPasses : Nat := 64

/-- The index that a block is a placeholder for. -/
def placeholder? (head : String) (children : List Token) : Option Decimal :=
  match children with
  | .decimal index :: _ => if head = "#" then some index else none
  | _ => none

/-- The argument at a placeholder's index. -/
def argument (args : List Token) (index : Decimal) : Except Error Token :=
  match index.toSize with
  | .error _ => .error (.invalidArgument (.placeholderIndex index))
  | .ok i =>
    match args[i]? with
    | some a => .ok a
    | none => .error (.invalidArgument (.placeholderRange i args.length))

mutual

/-- One pass: the tree with each of its placeholders replaced by the argument, and whether one has been replaced by
then; `replaced` tells whether one was before. -/
def substitute (args : List Token) (replaced : Bool) : Token → Except Error (Token × Bool)
  | .block head children =>
    match placeholder? head children with
    | some index => (argument args index).map fun a => (a, true)
    | none => (substituteAll args replaced children).map fun (ts, replaced) => (Token.block head ts, replaced)
  | t => .ok (t, replaced)

/-- One pass over each tree of a list, in order. -/
def substituteAll (args : List Token) (replaced : Bool) : List Token → Except Error (List Token × Bool)
  | [] => .ok ([], replaced)
  | t :: ts =>
    match substitute args replaced t with
    | .error e => .error e
    | .ok (u, replaced) => (substituteAll args replaced ts).map fun (us, replaced) => (u :: us, replaced)

end

/-- Makes passes until one replaces nothing, at most `passes` of them. -/
def expand (signature : Signature) (args : List Token) : Nat → Token → Except Error Token
  | 0, _ => .error (.invalidArgument (.divergentTemplate signature.render maxPasses))
  | passes + 1, t =>
    match substitute args false t with
    | .error e => .error e
    | .ok (u, true) => expand signature args passes u
    | .ok (u, false) => .ok u

/-- The body with all placeholders replaced by the arguments. -/
def instantiate (template : Template) (args : List Token) : Except Error Token :=
  expand template.signature args maxPasses template.body

end Template

end RuleExpr
