import RuleExpr.Function
import RuleExpr.Token.Path

/-!
# Scopes

A scope holds a binding root and the functions and templates registered in it, the newest first. Scopes form a chain,
innermost first; names are looked up along the chain.

- `lookup` and `readPath` see the binding of the innermost scope that has the first name of a path;
- `Scope.writePath` writes into the innermost scope; a value of an outer scope is copied before it is changed;
- a registry never holds two entries that are the same by `Signature.same`: `register`, `update` and `remove` refuse
  what does not fit, `upsert` puts an entry in the place of its like or in front.
-/

namespace RuleExpr

/-- What is bound and registered at one level of a chain. -/
structure Scope where
  binding : Token := .map []
  functions : List Function := []
  templates : List Template := []

instance : Inhabited Scope := ⟨{}⟩

/-! ## Bindings -/

/-- The value of a name in the innermost scope that has it. -/
def lookup (chain : List Scope) (key : String) : Option Token := chain.findSome? fun s => s.binding.child? key

/-- Follows the rest of a path from a token that `walked` led to. -/
def readSteps (walked : List String) : List String → Token → Except Error Token
  | [], t => .ok t
  | segment :: path, t =>
    match t with
    | .map _ | .list _ =>
      match t.child? segment with
      | some c => readSteps (walked ++ [segment]) path c
      | none => .error (.unboundName (Token.joinPath (walked ++ [segment])))
    | _ => .error (.kindMismatch (Token.joinPath walked) Kind.collection t.kind)

/-- The value at a path; the empty path is the binding root of the innermost scope. -/
def readPath (chain : List Scope) : List String → Except Error Token
  | [] => .ok ((chain.head?.map Scope.binding).getD .null)
  | first :: path =>
    match lookup chain first with
    | some t => readSteps [first] path t
    | none => .error (.unboundName first)

namespace Scope

/-- Puts a value at a path of the binding. -/
def setAt (s : Scope) (path : List String) (value : Token) : Except Error Unit × Scope :=
  match Token.assign path value s.binding with
  | (r, binding) => (r, { s with binding })

/-- Copies the value that outer scopes have for a name into this one, if it has none itself. -/
def inherit (parents : List Scope) (key : String) (s : Scope) : Except Error Unit × Scope :=
  match s.binding.child? key, lookup parents key with
  | none, some inherited => s.setAt [key] inherited
  | _, _ => (.ok (), s)

/-- Puts a value at a path, after the subtree that outer scopes have under its first name has been copied. -/
def writePath (parents : List Scope) (path : List String) (value : Token) (s : Scope) : Except Error Unit × Scope :=
  match path with
  | [] => (.ok (), { s with binding := value })
  | first :: _ =>
    match s.inherit parents first with
    | (.error e, s) => (.error e, s)
    | (.ok (), s) => s.setAt path value

end Scope

/-! ## Registries -/

namespace Registry

variable {α : Type} (signature : α → Signature)

/-- Whether an entry with the same signature is there. -/
def has (s : Signature) (entries : List α) : Bool := entries.any fun e => (signature e).same s

/-- Puts a new entry in front, unless its like is there. -/
def register? (entry : α) (entries : List α) : Option (List α) :=
  if has signature (signature entry) entries then none else some (entry :: entries)

/-- Puts an entry in the place of its like. -/
def replace (entry : α) : List α → List α
  | [] => []
  | e :: es => if (signature e).same (signature entry) then entry :: es else e :: replace entry es

/-- Puts an entry in the place of its like, if there is one. -/
def update? (entry : α) (entries : List α) : Option (List α) :=
  if has signature (signature entry) entries then some (replace signature entry entries) else none

/-- Takes the entry with the signature away, if there is one. -/
def remove? (s : Signature) (entries : List α) : Option (List α) :=
  if has signature s entries then some (entries.eraseP fun e => (signature e).same s) else none

/-- Puts an entry in the place of its like, or in front. -/
def upsert (entry : α) (entries : List α) : List α :=
  if has signature (signature entry) entries then replace signature entry entries else entry :: entries

end Registry

namespace Scope

/-- The functions of a scope as changed, or the conflict. -/
def changeFunctions (s : Scope) (conflict : Conflict) : Option (List Function) → Except Error Unit × Scope
  | some functions => (.ok (), { s with functions })
  | none => (.error (.registryConflict conflict), s)

/-- The templates of a scope as changed, or the conflict. -/
def changeTemplates (s : Scope) (conflict : Conflict) : Option (List Template) → Except Error Unit × Scope
  | some templates => (.ok (), { s with templates })
  | none => (.error (.registryConflict conflict), s)

/-- Registers a function whose like is not there. -/
def registerFunction (f : Function) (s : Scope) : Except Error Unit × Scope :=
  s.changeFunctions (.already .function f.signature.render) (Registry.register? Function.signature f s.functions)

/-- Puts a function in the place of its like. -/
def updateFunction (f : Function) (s : Scope) : Except Error Unit × Scope :=
  s.changeFunctions (.missing .function f.signature.render) (Registry.update? Function.signature f s.functions)

/-- Takes the function with a signature away. -/
def removeFunction (signature : Signature) (s : Scope) : Except Error Unit × Scope :=
  s.changeFunctions (.missing .function signature.render) (Registry.remove? Function.signature signature s.functions)

/-- Registers a template whose like is not there. -/
def registerTemplate (t : Template) (s : Scope) : Except Error Unit × Scope :=
  s.changeTemplates (.already .template t.signature.render) (Registry.register? Template.signature t s.templates)

/-- Puts a template in the place of its like. -/
def updateTemplate (t : Template) (s : Scope) : Except Error Unit × Scope :=
  s.changeTemplates (.missing .template t.signature.render) (Registry.update? Template.signature t s.templates)

/-- Takes the template with a signature away. -/
def removeTemplate (signature : Signature) (s : Scope) : Except Error Unit × Scope :=
  s.changeTemplates (.missing .template signature.render) (Registry.remove? Template.signature signature s.templates)

/-- Registers a template, or puts it in the place of its like. -/
def setTemplate (t : Template) (s : Scope) : Scope :=
  { s with templates := Registry.upsert Template.signature t s.templates }

end Scope

/-- The signatures of all visible functions, in the order in which they are tried. -/
def visibleFunctions (chain : List Scope) : List Signature := chain.flatMap fun s => s.functions.map Function.signature

/-- The signatures of all visible templates, in the order in which they are tried. -/
def visibleTemplates (chain : List Scope) : List Signature := chain.flatMap fun s => s.templates.map Template.signature

end RuleExpr
