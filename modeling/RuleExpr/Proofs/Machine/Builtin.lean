import RuleExpr.Proofs.Machine.Resumption

/-!
# The requests of functions

The built-in functions and the programs of host functions evaluate tokens one after the other, and depend on the
evaluator for the outcomes only (`Builtin.stepwise_run`, `Program.stepwise_run`).
-/

namespace RuleExpr

def Evaluator.stepwise_all : (ts : List Token) → Stepwise fun ev => ev.all ts
  | [] => .const
  | t :: ts => .bind (.evaluate t) fun _ => .bind (stepwise_all ts) fun _ => .const

/-- A body is evaluated once its name has the value. -/
def Evaluator.stepwise_withValue (name : String) (value body : Token) :
    Stepwise fun ev => ev.withValue name value body :=
  .inScope (.bind .const fun _ => .evaluate body)

namespace Connective

def stepwise_allHold : (ts : List Token) → Stepwise fun ev => allHold ev ts
  | [] => .const
  | t :: ts => .bind (.evaluate t) fun _ => .ite (stepwise_allHold ts) .const

def stepwise_anyHolds : (ts : List Token) → Stepwise fun ev => anyHolds ev ts
  | [] => .const
  | t :: ts => .bind (.evaluate t) fun _ => .ite .const (stepwise_anyHolds ts)

def stepwise_run (args : List Token) : (op : Connective) → Stepwise fun ev => op.run ev args
  | all => .bind (stepwise_allHold args) fun _ => .const
  | any => .bind (stepwise_anyHolds args) fun _ => .const

end Connective

namespace Iterator

section

variable (name : String) (body : Token)

def stepwise_mapItems : (ts : List Token) → Stepwise fun ev => mapItems ev name body ts
  | [] => .const
  | t :: ts =>
    .bind (Evaluator.stepwise_withValue name t body) fun _ => .bind (stepwise_mapItems ts) fun _ => .const

def stepwise_anyItem : (ts : List Token) → Stepwise fun ev => anyItem ev name body ts
  | [] => .const
  | t :: ts => .bind (Evaluator.stepwise_withValue name t body) fun _ => .ite .const (stepwise_anyItem ts)

def stepwise_everyItem : (ts : List Token) → Stepwise fun ev => everyItem ev name body ts
  | [] => .const
  | t :: ts => .bind (Evaluator.stepwise_withValue name t body) fun _ => .ite (stepwise_everyItem ts) .const

def stepwise_sumItems (acc : Decimal) : (ts : List Token) → Stepwise fun ev => sumItems ev name body acc ts
  | [] => .const
  | t :: ts =>
    .bind (Evaluator.stepwise_withValue name t body) fun _ =>
      .bind .const fun d => stepwise_sumItems (acc.add d) ts

def stepwise_keyItems (function : String) (kind : Kind) :
    (ts : List Token) → Stepwise fun ev => keyItems ev name body function kind ts
  | [] => .const
  | t :: ts =>
    .bind (Evaluator.stepwise_withValue name t body) fun _ =>
      .ite (.bind (stepwise_keyItems function kind ts) fun _ => .const) .const

end

def stepwise_sortBy (function : String) (kind : Kind) (args : List Token) :
    Stepwise fun ev => sortBy ev function kind args :=
  .bind .const fun (items, name, body) => .bind (stepwise_keyItems name body function kind items) fun _ => .const

def stepwise_run (args : List Token) : (op : Iterator) → Stepwise fun ev => op.run ev args
  | map => .bind .const fun (items, name, body) => .bind (stepwise_mapItems name body items) fun _ => .const
  | anyOf => .bind .const fun (items, name, body) => .bind (stepwise_anyItem name body items) fun _ => .const
  | every => .bind .const fun (items, name, body) => .bind (stepwise_everyItem name body items) fun _ => .const
  | sum => .bind .const fun (items, name, body) => .bind (stepwise_sumItems name body 0 items) fun _ => .const
  | sortByNumber => stepwise_sortBy "sortByNumber" Kind.decimal args
  | sortByString => stepwise_sortBy "sortByString" Kind.string args

end Iterator

namespace KeyValues

/-- The values of a pair are evaluated, or a key and the value after it. -/
def stepwise_addEntries (m : Entries Token) : (args : List Token) → Stepwise fun ev => addEntries ev m args
  | [] => .const
  | arg :: args =>
    .congr (fun ev => (addEntries.eq_def ev m (arg :: args)).symm) <| .bind .const fun _ => .bind .const fun
      | some (key, children) =>
        .bind (Evaluator.stepwise_all children) fun values => stepwise_addEntries (m.insert key (pairValue values)) args
      | none =>
        .bind (.evaluate arg) fun key =>
          match args with
          | [] => .const
          | value :: args => .bind (.evaluate value) fun v => stepwise_addEntries (m.insert key.text v) args

def stepwise_run (args : List Token) : Stepwise fun ev => run ev args :=
  .bind (stepwise_addEntries [] args) fun _ => .const

end KeyValues

namespace BindingOperation

def stepwise_valueOr (args : List Token) : Stepwise fun ev => valueOr ev args :=
  .bind .const fun (_, path) =>
    .bind (.attempt (.evaluate path)) fun
      | .ok _ => .const
      | .error _ => .ite .const .const

def stepwise_run (args : List Token) : (op : BindingOperation) → Stepwise fun ev => op.run ev args
  | .read => .const
  | .write => .const
  | .readOr => stepwise_valueOr args

end BindingOperation

namespace Control

def stepwise_evaluateOr (args : List Token) : Stepwise fun ev => evaluateOr ev args :=
  .bind .const fun (fallback, attempted) =>
    .bind (.attempt (.evaluate attempted)) fun
      | .ok _ => .const
      | .error _ => .evaluate fallback

def stepwise_run (args : List Token) : (op : Control) → Stepwise fun ev => op.run ev args
  | .recover => stepwise_evaluateOr args
  | .inScope => .bind .const fun body => .inScope (.evaluate body)
  | .bind => .bind .const fun (value, name, body) => Evaluator.stepwise_withValue name.text value body
  | .bindLambda =>
    .bind .const fun (value, _) => .bind .const fun (name, body) => Evaluator.stepwise_withValue name value body
  | noop => .const
  | .toString => .const
  | not => .const
  | identity => .const
  | panic => .const
  | .instantiate => .const
  | .setTemplate => .const

end Control

/-- **A built-in function is a sequence of requests.** -/
def Builtin.stepwise_run (args : List Token) : (op : Builtin) → Stepwise fun ev => op.run ev args
  | .arithmetic _ => .const
  | .comparison _ => .const
  | .connective op => op.stepwise_run args
  | .list _ => .const
  | .iterator op => op.stepwise_run args
  | .keyValues => KeyValues.stepwise_run args
  | .text _ => .const
  | .time _ => .const
  | .binding op => op.stepwise_run args
  | .control op => op.stepwise_run args

/-- In a dry run nothing is requested. -/
def Evaluator.stepwise_request (t : Token) : Stepwise fun ev => ev.request t :=
  .bind .const fun _ => .ite (.bind .const fun _ => .bind .const fun _ => .const) (.evaluate t)

/-- **The program of a host function is a sequence of requests.** -/
def Program.stepwise_run : (p : Program) → Stepwise fun ev => p.run ev
  | .done _ => .const
  | .evaluate token next => .bind (.attempt (Evaluator.stepwise_request token)) fun r => (next r).stepwise_run
  | .validate _ next => .bind .const fun _ => .bind .const fun r => (next r).stepwise_run
  | .read _ next => .bind .const fun _ => (next _).stepwise_run
  | .write _ _ next => .bind .const fun r => (next r).stepwise_run
  | .get _ next => .bind .const fun _ => (next _).stepwise_run
  | .set _ _ next => .bind .const fun r => (next r).stepwise_run
  | .binding next => .bind .const fun r => (next r).stepwise_run
  | .setBinding _ next => .bind .const fun _ => next.stepwise_run
  | .config next => .bind .const fun config => (next config).stepwise_run
  | .functions next => .bind .const fun _ => (next _).stepwise_run
  | .templates next => .bind .const fun _ => (next _).stepwise_run
  | .registerFunction _ _ next => .bind .const fun r => (next r).stepwise_run
  | .updateFunction _ _ next => .bind .const fun r => (next r).stepwise_run
  | .removeFunction _ next => .bind .const fun r => (next r).stepwise_run
  | .registerTemplate _ next => .bind .const fun r => (next r).stepwise_run
  | .updateTemplate _ next => .bind .const fun r => (next r).stepwise_run
  | .removeTemplate _ next => .bind .const fun r => (next r).stepwise_run
  | .inScope inner next => .bind (.attempt (.inScope inner.stepwise_run)) fun r => (next r).stepwise_run

def Body.stepwise_run (args : List Token) : (b : Body) → Stepwise fun ev => b.run ev args
  | .builtin op => op.stepwise_run args
  | .host run => (run args).stepwise_run

end RuleExpr
