import RuleExpr.Action
import RuleExpr.Arguments
import RuleExpr.Token.Render

/-!
# Bindings

Reading a path, writing a path, and reading with a default for a missing name.
-/

namespace RuleExpr.BindingOperation

/-- The value at the path that the arguments spell. -/
def valueAt (args : List Token) : Action Token := do
  let chain ← Action.chain
  Action.ofExcept (readPath chain (args.map Token.text))

/-- Puts the last argument at the path that the others spell. -/
def putAt (args : List Token) : Action Token := do
  Action.ofExcept (Arguments.atLeast "set" 2 args)
  let value := args.getLastD .null
  Action.write (args.dropLast.map Token.text) value
  pure value

/-- Whether the cause is a name that is not bound. -/
def isUnbound (e : Error) : Bool :=
  match e.root with
  | .unboundName _ => true
  | _ => false

/-- Evaluates the second argument; the first is the value where a name is missing. -/
def valueOr (ev : Evaluator) (args : List Token) : Action Token := do
  let (default, path) ← Action.ofExcept (Arguments.two ".|" args)
  match ← Action.attempt (ev path) with
  | .ok v => pure v
  | .error e => if isUnbound e then pure default else Action.fail e

/-- What an access to bindings does. -/
def run (ev : Evaluator) : BindingOperation → List Token → Action Token
  | .read, args => valueAt args
  | .write, args => putAt args
  | .readOr, args => valueOr ev args

/-- The binding part of the catalogue, in order of registration. -/
def catalogue : List Function :=
  let entry (signature : Signature) (op : BindingOperation) : Function := ⟨signature, .builtin (.binding op)⟩
  let v := Kind.value
  let readOrNamed (name : String) : Function :=
    entry ⟨name, [v, Kind.any], false, v, "Value of the path expression, or the default when a name is missing",
      s!"({name} 0 (. Cart Discount))"⟩ .readOr
  [entry ⟨".", [Kind.atom], true, v, "Value at a path of keys and list indices in the binding",
      "(. Cart Items 0 Price)"⟩ .read,
    entry ⟨"set", [Kind.atom, v, v], true, v, "Install the last argument at the path given by the others",
      "(set Cart Total 42)"⟩ .write,
    readOrNamed ".|", readOrNamed "safeRead"]

end RuleExpr.BindingOperation
