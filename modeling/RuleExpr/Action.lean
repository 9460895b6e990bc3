import RuleExpr.Dispatch

/-!
# Actions

An action is a computation in a scope. It sees the configuration and the enclosing scopes, which do not change, and it
may change the innermost scope; what it has changed stays changed when it fails. Nothing catches a failure that aborts
(`Action.attempt`).
-/

namespace RuleExpr

/-- What an action sees and cannot change. -/
structure Context where
  config : Config
  parents : List Scope

/-- A computation that gives a value or fails, and leaves the innermost scope in a new state either way. -/
def Action (α : Type) : Type := Context → Scope → Except Error α × Scope

namespace Action

variable {α β : Type}

protected def pure (a : α) : Action α := fun _ s => (.ok a, s)

/-- One action after the other; a failure of the first is the end. -/
protected def bind (x : Action α) (f : α → Action β) : Action β := fun c s =>
  match x c s with
  | (.ok a, s) => f a c s
  | (.error e, s) => (.error e, s)

instance : Monad Action where
  pure := Action.pure
  bind := Action.bind

/-- The failure with an error. -/
def fail (e : Error) : Action α := fun _ s => (.error e, s)

/-- A result that does not depend on the scope. -/
def ofExcept (r : Except Error α) : Action α := fun _ s => (r, s)

/-- The outcome of an action, failure included unless it aborts. -/
def attempt (x : Action α) : Action (Except Error α) := fun c s =>
  match x c s with
  | (.ok a, s) => (.ok (.ok a), s)
  | (.error e, s) => (if e.aborts then .error e else .ok (.error e), s)

/-- The action with its failure wrapped in a call of the signature. -/
def within (signature : Signature) (x : Action α) : Action α := fun c s =>
  match x c s with
  | (.ok a, s) => (.ok a, s)
  | (.error e, s) => (.error (.call signature.render e), s)

/-- A change of the innermost scope. -/
def change (f : Scope → Except Error α × Scope) : Action α := fun _ s => f s

/-- The settings. -/
def config : Action Config := fun c s => (.ok c.config, s)

/-- A part of the innermost scope. -/
def ofScope (f : Scope → α) : Action α := fun _ s => (.ok (f s), s)

/-- The innermost scope and those around it. -/
def chain : Action (List Scope) := fun c s => (.ok (s :: c.parents), s)

/-- The action in a new innermost scope, which is dropped afterwards. -/
def inScope (x : Action α) : Action α := fun c s => ((x { c with parents := s :: c.parents } {}).1, s)

/-- Puts a value at a path. -/
def write (path : List String) (value : Token) : Action Unit := fun c s => s.writePath c.parents path value

/-- Gives a name of the innermost scope a value. -/
def set (key : String) (value : Token) : Action Unit := change fun s => s.setAt [key] value

end Action

/-- How tokens are evaluated one level further down. -/
abbrev Evaluator := Token → Action Token

namespace Evaluator

/-- Evaluates the tokens in order. -/
def all (ev : Evaluator) : List Token → Action (List Token)
  | [] => pure []
  | t :: ts => do
    let v ← ev t
    let vs ← all ev ts
    pure (v :: vs)

/-- Evaluates a body in a new scope in which a name has a value. -/
def withValue (ev : Evaluator) (name : String) (value body : Token) : Action Token :=
  Action.inScope do
    Action.set name value
    ev body

end Evaluator

end RuleExpr
