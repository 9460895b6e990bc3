import RuleExpr.Builtin.Arithmetic
import RuleExpr.Builtin.Comparison
import RuleExpr.Builtin.Iterator
import RuleExpr.Builtin.KeyValues
import RuleExpr.Builtin.Text
import RuleExpr.Builtin.Time
import RuleExpr.Builtin.Binding
import RuleExpr.Builtin.Control

/-!
# Evaluation

Atoms, lists and maps are their own values. A block with an empty head evaluates its children in order and gives the
last value. Any other block is a call: an overload is chosen, the arguments that it does not quote are evaluated, and
its body is run; a block for which there is no overload stays as it is, or without children is the atom that its head
spells. A block that a quoting function gives back is evaluated in turn.

The evaluation of a block takes one level of depth. Whatever it evaluates has one level less, down to none, where a
block fails with `Error.recursionLimit`; this is the measure by which `evaluate` ends.

- `prepare` chooses the function of a call and evaluates its arguments; `Call.run` runs it;
- `evaluate` puts both together, and `validate` resolves every call that would be evaluated, without running it.
-/

namespace RuleExpr

/-! ## Bodies -/

/-- What a built-in function does with its arguments, where `ev` evaluates one level further down. -/
def Builtin.run (ev : Evaluator) : Builtin → List Token → Action Token
  | .arithmetic op, args => do
    let config ← Action.config
    Action.ofExcept (op.run config.divisionPrecision args)
  | .comparison op, args => Action.ofExcept (op.run args)
  | .connective op, args => op.run ev args
  | .list op, args => Action.ofExcept (op.run args)
  | .iterator op, args => op.run ev args
  | .keyValues, args => KeyValues.run ev args
  | .text op, args => Action.ofExcept (op.run args)
  | .time op, args => Action.ofExcept (op.run args)
  | .binding op, args => op.run ev args
  | .control op, args => op.run ev args

mutual

/-- Resolves every call of a tree that would be evaluated. -/
def validate (chain : List Scope) : Token → Except Error Unit
  | .block head children =>
    if head.isEmpty then validateAll chain children
    else
      match resolve chain head children with
      | .error e => .error e
      | .ok none => .ok ()
      | .ok (some f) => validateArguments chain f.signature 0 children
  | _ => .ok ()

/-- Validates the children of a grouping, in order. -/
def validateAll (chain : List Scope) : List Token → Except Error Unit
  | [] => .ok ()
  | t :: ts =>
    match validate chain t with
    | .error e => .error e
    | .ok () => validateAll chain ts

/-- Validates the arguments from an index on that the signature does not quote, in order. -/
def validateArguments (chain : List Scope) (signature : Signature) (index : Nat) : List Token → Except Error Unit
  | [] => .ok ()
  | t :: ts =>
    if signature.quotes index then validateArguments chain signature (index + 1) ts
    else
      match validate chain t with
      | .error e => .error (.call signature.render e)
      | .ok () => validateArguments chain signature (index + 1) ts

end

/-- Evaluates a token, or in a dry run only validates it and gives it back. -/
def Evaluator.request (ev : Evaluator) (t : Token) : Action Token := do
  let config ← Action.config
  if config.dryRun then
    let chain ← Action.chain
    Action.ofExcept (validate chain t)
    pure t
  else ev t

/-- Runs a program of the host in the scope of the call. -/
def Program.run (ev : Evaluator) : Program → Action Token
  | .done result => Action.ofExcept result
  | .evaluate token next => do
    let r ← Action.attempt (ev.request token)
    (next r).run ev
  | .validate token next => do
    let chain ← Action.chain
    let r ← Action.attempt (Action.ofExcept (RuleExpr.validate chain token))
    (next r).run ev
  | .read path next => do
    let chain ← Action.chain
    (next (readPath chain path)).run ev
  | .write path value next => do
    let r ← Action.attempt (Action.write path value)
    (next r).run ev
  | .get key next => do
    let chain ← Action.chain
    (next ((lookup chain key).getD .null)).run ev
  | .set key value next => do
    let r ← Action.attempt (Action.set key value)
    (next r).run ev
  | .binding next => do
    let r ← Action.ofScope Scope.binding
    (next r).run ev
  | .setBinding value next => do
    Action.change fun s => (.ok (), { s with binding := value })
    next.run ev
  | .config next => do
    let config ← Action.config
    (next config).run ev
  | .functions next => do
    let chain ← Action.chain
    (next (visibleFunctions chain)).run ev
  | .templates next => do
    let chain ← Action.chain
    (next (visibleTemplates chain)).run ev
  | .registerFunction signature body next => do
    let r ← Action.attempt (Action.change (Scope.registerFunction ⟨signature, body⟩))
    (next r).run ev
  | .updateFunction signature body next => do
    let r ← Action.attempt (Action.change (Scope.updateFunction ⟨signature, body⟩))
    (next r).run ev
  | .removeFunction signature next => do
    let r ← Action.attempt (Action.change (Scope.removeFunction signature))
    (next r).run ev
  | .registerTemplate template next => do
    let r ← Action.attempt (Action.change (Scope.registerTemplate template))
    (next r).run ev
  | .updateTemplate template next => do
    let r ← Action.attempt (Action.change (Scope.updateTemplate template))
    (next r).run ev
  | .removeTemplate signature next => do
    let r ← Action.attempt (Action.change (Scope.removeTemplate signature))
    (next r).run ev
  | .inScope inner next => do
    let r ← Action.attempt (Action.inScope (inner.run ev))
    (next r).run ev

/-- What a body does with its arguments. -/
def Body.run (ev : Evaluator) : Body → List Token → Action Token
  | .builtin op, args => op.run ev args
  | .host run, args => (run args).run ev

/-! ## Calls -/

/-- A function with the arguments that it is to be run with. -/
structure Call where
  function : Function
  args : List Token

/-- The arguments of a call: those that the signature quotes as they are, the others evaluated, in order. -/
def evaluateArguments (ev : Evaluator) (signature : Signature) (index : Nat) : List Token → Action (List Token)
  | [] => pure []
  | t :: ts => do
    let v ← if signature.quotes index then pure t else Action.within signature (ev t)
    let vs ← evaluateArguments ev signature (index + 1) ts
    pure (v :: vs)

/-- The call that a block stands for, with its arguments evaluated; none if no overload fits. Where the function chosen
beforehand does not fit the values, another one is chosen for them. -/
def prepare (ev : Evaluator) (head : String) (children : List Token) : Action (Option Call) := do
  let chain ← Action.chain
  match ← Action.ofExcept (resolve chain head children) with
  | none => pure none
  | some f => do
    let args ← evaluateArguments ev f.signature 0 children
    if acceptsValues f.signature args then pure (some ⟨f, args⟩)
    else do
      let chain ← Action.chain
      let g ← Action.ofExcept (redispatch chain head args)
      pure (some ⟨g, args⟩)

/-- Runs a call; a block that comes from a function that gives back trees is evaluated. -/
def Call.run (ev : Evaluator) (call : Call) : Action Token := do
  let signature := call.function.signature
  let v ← Action.within signature (call.function.body.run ev call.args)
  if signature.returns.quotes && v.isBlock then ev v else pure v

/-- Evaluates the tokens in order and gives the last value. -/
def evaluateSequence (ev : Evaluator) (last : Token) : List Token → Action Token
  | [] => pure last
  | t :: ts => do
    let v ← ev t
    evaluateSequence ev v ts

/-- Evaluates a block, where `ev` evaluates one level further down. -/
def evaluateBlock (ev : Evaluator) (head : String) (children : List Token) : Action Token :=
  if head.isEmpty then
    if children.isEmpty then pure (.block head children) else evaluateSequence ev .null children
  else do
    match ← prepare ev head children with
    | some call => call.run ev
    | none => if children.isEmpty then Action.ofExcept (Token.infer head) else pure (.block head children)

/-- Evaluates a token with the given levels of depth left. -/
def evaluate : Nat → Evaluator
  | 0, .block .. => do
    let config ← Action.config
    Action.fail (.recursionLimit config.maxDepth)
  | depth + 1, .block head children => evaluateBlock (evaluate depth) head children
  | _, t => pure t

end RuleExpr
