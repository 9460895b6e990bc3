import RuleExpr.Builtin.Iterator

/-!
# Control of evaluation

Recovery from failures, bodies in scopes of their own, templates, and small functions on any value. `identity` and `!`
give back an unevaluated tree, which the evaluator goes on with.
-/

namespace RuleExpr

namespace Connective

/-- Whether every argument holds; those after the first that does not are not evaluated. -/
def allHold (ev : Evaluator) : List Token → Action Bool
  | [] => pure true
  | t :: ts => do
    let v ← ev t
    if v.isTruthy then allHold ev ts else pure false

/-- Whether an argument holds; those after the first that does are not evaluated. -/
def anyHolds (ev : Evaluator) : List Token → Action Bool
  | [] => pure false
  | t :: ts => do
    let v ← ev t
    if v.isTruthy then pure true else anyHolds ev ts

/-- What a connective does. -/
def run (ev : Evaluator) : Connective → List Token → Action Token
  | all, args => do
    let b ← allHold ev args
    pure (.boolean b)
  | any, args => do
    let b ← anyHolds ev args
    pure (.boolean b)

end Connective

namespace Control

/-- Evaluates the second argument, and the first instead if that fails. -/
def evaluateOr (ev : Evaluator) (args : List Token) : Action Token := do
  let (fallback, attempted) ← Action.ofExcept (Arguments.two "catch" args)
  match ← Action.attempt (ev attempted) with
  | .ok v => pure v
  | .error _ => ev fallback

/-- Evaluates the only argument in a new scope. -/
def evaluateInScope (ev : Evaluator) (args : List Token) : Action Token := do
  let body ← Action.ofExcept (Arguments.one "do" args)
  Action.inScope (ev body)

/-- Evaluates a body in a new scope in which a name has a value: `value name body`. -/
def evaluateWith (ev : Evaluator) (args : List Token) : Action Token := do
  let (value, name, body) ← Action.ofExcept (Arguments.three "do" args)
  ev.withValue name.text value body

/-- Evaluates a body in a new scope in which a name has a value: `value ((name) body)`. -/
def evaluateLambda (ev : Evaluator) (args : List Token) : Action Token := do
  let (value, l) ← Action.ofExcept (Arguments.two "do" args)
  let (name, body) ← Action.ofExcept (lambda "do" l)
  ev.withValue name value body

/-- The body of a template with the arguments in place. -/
def instantiated (args : List Token) : Action Token := do
  Action.ofExcept (Arguments.atLeast "!" 1 args)
  let name ← Action.ofExcept (Arguments.string "!" (args.headD .null))
  let chain ← Action.chain
  let template ← Action.ofExcept (resolveTemplate chain name args.tail)
  Action.ofExcept (template.instantiate args.tail)

/-- Registers or replaces a template in the innermost scope. -/
def putTemplate (args : List Token) : Action Token := do
  let (s, body) ← Action.ofExcept (Arguments.two "setTemplate" args)
  let text ← Action.ofExcept (Arguments.string "setTemplate" s)
  let signature ← Action.ofExcept (Signature.parse text)
  Action.change fun s => (.ok (), s.setTemplate ⟨signature, body⟩)
  pure .null

/-- What a control function does. -/
def run (ev : Evaluator) : Control → List Token → Action Token
  | noop, _ => pure .null
  | .toString, args => do
    let a ← Action.ofExcept (Arguments.one "toString" args)
    pure (.string a.text)
  | not, args => do
    let a ← Action.ofExcept (Arguments.one "not" args)
    pure (.boolean (!a.isTruthy))
  | identity, args => Action.ofExcept (Arguments.one "identity" args)
  | panic, args => Action.fail (.userPanic (" ".intercalate (args.map Token.text)))
  | .recover, args => evaluateOr ev args
  | .inScope, args => evaluateInScope ev args
  | .bind, args => evaluateWith ev args
  | .bindLambda, args => evaluateLambda ev args
  | .instantiate, args => instantiated args
  | .setTemplate, args => putTemplate args

/-- The control part of the catalogue, in order of registration. -/
def catalogue : List Function :=
  let entry (signature : Signature) (op : Control) : Function := ⟨signature, .builtin (.control op)⟩
  let v := Kind.value
  let a := Kind.any
  let s := Kind.string
  [entry ⟨"noop", [a], true, Kind.null, "Ignore the arguments", "(noop (panic))"⟩ noop,
    entry ⟨"toString", [v], false, s, "Canonical text of the value", "(toString 1.50)"⟩ .toString,
    entry ⟨"not", [v], false, Kind.boolean, "Negated truthiness", "(not false)"⟩ not,
    entry ⟨"catch", [a, a], false, v, "The second argument, or the first when the second fails",
      "(catch 22 (panic))"⟩ .recover,
    entry ⟨"do", [a], false, v, "Evaluate the body in a child scope", "(do ((set X 1) (+ (. X) 1)))"⟩ .inScope,
    entry ⟨"do", [v, a], false, v, "Bind a value for a body written as `((name) body)`",
      "(do (. Cart) ((c) (. c Total)))"⟩ .bindLambda,
    entry ⟨"do", [v, s, a], false, v, "Bind a value to a name for the body", "(do (. Cart) c (. c Total))"⟩ .bind,
    entry ⟨"identity", [a], false, a, "The argument itself", "(identity (+ 1 2))"⟩ identity,
    entry ⟨"!", [s, a], true, a, "Instantiate a template with the arguments", "(! MultiplyWith2 4)"⟩ .instantiate,
    entry ⟨"setTemplate", [s, a], false, Kind.null, "Register or replace a template in the current scope",
      "(setTemplate \"Twice(Decimal)Decimal\" (* 2 (# 0)))"⟩ .setTemplate,
    entry ⟨"panic", [v], true, v, "Abort the evaluation", "(panic \"unreachable\")"⟩ panic]

end Control

end RuleExpr
