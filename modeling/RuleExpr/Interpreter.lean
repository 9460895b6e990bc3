import RuleExpr.Evaluation
import RuleExpr.Token.Source

/-!
# Interpreters

An interpreter is a chain of scopes with settings. A root interpreter has one scope, with the built-in catalogue unless
asked for without; `newScope` opens a scope inside, which sees everything around it and is dropped with all that was
done in it.

- `run` runs an action in the innermost scope; `evaluate` and `evaluateSource` evaluate a token and a source text;
- `register` and its like change what is registered in the innermost scope.
-/

namespace RuleExpr

/-- The built-in functions in order of registration; those registered later are tried first. -/
def catalogue : List Function :=
  Arithmetic.catalogue ++ Comparison.catalogue ++ ListOperation.catalogue ++ Iterator.catalogue ++ KeyValues.catalogue
    ++ TextOperation.catalogue ++ TimeOperation.catalogue ++ BindingOperation.catalogue ++ Control.catalogue

/-- A scope with the scopes around it, and settings. -/
structure Interpreter where
  config : Config
  scope : Scope
  parents : List Scope

namespace Interpreter

/-- An interpreter with one scope. -/
def root (config : Config := {}) (binding : Token := .map []) (builtins : Bool := true) : Interpreter :=
  ⟨config, { binding, functions := if builtins then catalogue.reverse else [] }, []⟩

/-- The innermost scope and those around it. -/
def chain (i : Interpreter) : List Scope := i.scope :: i.parents

/-- The interpreter with a new innermost scope. -/
def newScope (i : Interpreter) : Interpreter := ⟨i.config, {}, i.chain⟩

/-- Runs an action in the innermost scope. -/
def run {α : Type} (i : Interpreter) (x : Action α) : Except Error α × Interpreter :=
  match x ⟨i.config, i.parents⟩ i.scope with
  | (r, scope) => (r, { i with scope })

/-- Evaluates a token, or validates it in a dry run. -/
def evaluate (i : Interpreter) (t : Token) : Except Error Token × Interpreter :=
  i.run (Evaluator.request (RuleExpr.evaluate i.config.maxDepth) t)

/-- Reads a source text and evaluates it. -/
def evaluateSource (i : Interpreter) (source : String) : Except Error Token × Interpreter :=
  match Token.read source with
  | .error e => (.error e, i)
  | .ok t => i.evaluate t

/-- Resolves every call of a tree without running it. -/
def validate (i : Interpreter) (t : Token) : Except Error Unit := RuleExpr.validate i.chain t

/-- The value of a visible name, null where there is none. -/
def get (i : Interpreter) (key : String) : Token := (lookup i.chain key).getD .null

/-- Gives a name of the innermost scope a value. -/
def set (i : Interpreter) (key : String) (value : Token) : Except Error Unit × Interpreter :=
  i.run (Action.set key value)

/-- The value at a path. -/
def read (i : Interpreter) (path : List String) : Except Error Token := readPath i.chain path

/-- Puts a value at a path of the innermost scope. -/
def write (i : Interpreter) (path : List String) (value : Token) : Except Error Unit × Interpreter :=
  i.run (Action.write path value)

/-- Changes the innermost scope. -/
def change (i : Interpreter) (f : Scope → Except Error Unit × Scope) : Except Error Unit × Interpreter :=
  i.run (Action.change f)

/-! ## Registries

The innermost scope is changed. Signatures are given as texts; one that cannot be read changes nothing. -/

/-- Changes the innermost scope as told for the signature that a text is. -/
def changeBy (i : Interpreter) (text : String) (f : Signature → Scope → Except Error Unit × Scope) :
    Except Error Unit × Interpreter :=
  match Signature.parse text with
  | .error e => (.error e, i)
  | .ok signature => i.change (f signature)

/-- Registers a function that is made already. -/
def register (i : Interpreter) (f : Function) : Except Error Unit × Interpreter := i.change (Scope.registerFunction f)

/-- Registers a function. -/
def registerFunction (i : Interpreter) (text : String) (body : Body) : Except Error Unit × Interpreter :=
  i.changeBy text fun signature => Scope.registerFunction ⟨signature, body⟩

/-- Puts a function in the place of the one with the signature. -/
def updateFunction (i : Interpreter) (text : String) (body : Body) : Except Error Unit × Interpreter :=
  i.changeBy text fun signature => Scope.updateFunction ⟨signature, body⟩

/-- Takes the function with the signature away. -/
def removeFunction (i : Interpreter) (text : String) : Except Error Unit × Interpreter :=
  i.changeBy text Scope.removeFunction

/-- Registers a template. -/
def registerTemplate (i : Interpreter) (text : String) (body : Token) : Except Error Unit × Interpreter :=
  i.changeBy text fun signature => Scope.registerTemplate ⟨signature, body⟩

/-- Puts a template in the place of the one with the signature. -/
def updateTemplate (i : Interpreter) (text : String) (body : Token) : Except Error Unit × Interpreter :=
  i.changeBy text fun signature => Scope.updateTemplate ⟨signature, body⟩

/-- Takes the template with the signature away. -/
def removeTemplate (i : Interpreter) (text : String) : Except Error Unit × Interpreter :=
  i.changeBy text Scope.removeTemplate

end Interpreter

end RuleExpr
