import RuleExpr.Scope
import RuleExpr.Token.Infer

/-!
# Choice of an overload

A block calls the first visible function, innermost scope first and newest first, that has the name of its head in any
case, admits as many arguments as the block has children, and accepts every child.

- A child that is a block is judged by `lookAhead`: the union of the results of the functions that it could call. A word
  that names no function is read as an atom, which may overflow, and then so does the choice;
- `select` goes through the candidates: `resolve` chooses for a block with it, `resolveTemplate` for a template;
- `redispatch` chooses for arguments that are evaluated.
-/

namespace RuleExpr

/-- The visible functions with a name, in the order in which they are tried. -/
def functionsNamed (chain : List Scope) (key : String) : List Function :=
  chain.flatMap fun s => s.functions.filter fun f => f.signature.key == key

/-- The visible templates with a name, in the order in which they are tried. -/
def templatesNamed (chain : List Scope) (key : String) : List Template :=
  chain.flatMap fun s => s.templates.filter fun t => t.signature.key == key

/-- Goes through functions of one name, of which `returns` is the union of the results so far: whether there is one, and
the union of the results of those that admit the argument count. -/
def possibleReturns (count : Nat) (known : Bool) (returns : Kind) : List Function → Bool × Kind
  | [] => (known, returns)
  | f :: fs =>
    possibleReturns count true (if f.signature.admits count then returns.union f.signature.returns else returns) fs

/-- What the evaluation of a block could give, looking at the functions with its head's name only. -/
def lookAhead (chain : List Scope) (head : String) (children : List Token) : Except Error Kind :=
  if head.isEmpty then
    match children with
    | [only] => .ok (if only.isBlock then Kind.any else only.kind)
    | _ => .ok Kind.any
  else
    match possibleReturns children.length false Kind.empty (functionsNamed chain (Text.foldCase head)) with
    -- left as it is by evaluation
    | (false, _) => if children.isEmpty then (Token.infer head).map Token.kind else .ok Kind.token
    -- evaluation fails if none admits the arguments, and is left to it
    | (true, returns) => .ok (if returns = Kind.empty then Kind.any else returns)

/-- Whether a parameter accepts an unevaluated child. -/
def acceptsChild (chain : List Scope) (parameter : Kind) (child : Token) : Except Error Bool :=
  match child with
  | .block head children =>
    if parameter.quotes then .ok true else (lookAhead chain head children).map parameter.accepts
  | atom => .ok (parameter.accepts atom.kind)

/-- Whether a signature accepts the unevaluated children of a block, from the first to one that it does not accept. -/
def acceptsChildren (chain : List Scope) (signature : Signature) (children : List Token) : Except Error Bool :=
  children.zipIdx.allM fun (child, i) => acceptsChild chain (signature.parameterKind i) child

/-- Whether every evaluated argument fits the signature. -/
def acceptsValues (signature : Signature) (args : List Token) : Bool :=
  args.zipIdx.all fun (arg, i) => signature.quotes i || (signature.parameterKind i).accepts arg.kind

/-- The first of the candidates that admits the argument count and is accepted. `known` tells whether there was a
candidate before these, and `admitted` whether one of those before admits the count; if there are candidates and none of
them does, that is an error. -/
def select {α : Type} (signature : α → Signature) (accepts : Signature → Except Error Bool) (name : String)
    (count : Nat) (known admitted : Bool) : List α → Except Error (Option α)
  | [] => if known && !admitted then .error (.arity name count) else .ok none
  | c :: cs =>
    if (signature c).admits count then
      match accepts (signature c) with
      | .error e => .error e
      | .ok true => .ok (some c)
      | .ok false => select signature accepts name count true true cs
    else select signature accepts name count true admitted cs

/-- The function that a block calls; none means that the block stays as it is. -/
def resolve (chain : List Scope) (head : String) (children : List Token) : Except Error (Option Function) :=
  select Function.signature (fun s => acceptsChildren chain s children) head children.length false false
    (functionsNamed chain (Text.foldCase head))

/-- The template that a name and arguments stand for. -/
def resolveTemplate (chain : List Scope) (name : String) (args : List Token) : Except Error Template :=
  match select Template.signature (fun s => acceptsChildren chain s args) name args.length false false
    (templatesNamed chain (Text.foldCase name)) with
  | .error e => .error e
  | .ok (some t) => .ok t
  | .ok none => .error (.templateNotFound name)

/-- The first argument whose kind its parameter does not accept, as an error. -/
def firstMismatch (signature : Signature) (args : List Token) : Option Error :=
  args.zipIdx.findSome? fun (arg, i) =>
    let expected := signature.parameterKind i
    if expected.accepts arg.kind then none else some (.kindMismatch signature.render expected arg.kind)

/-- The first of the candidates that admits the arguments and fits them. `mismatch` is the first one found among the
candidates before these, which is the error where none fits. -/
def selectForValues (name : String) (args : List Token) (mismatch : Option Error) :
    List Function → Except Error Function
  | [] => .error (mismatch.getD (.arity name args.length))
  | f :: fs =>
    if !f.signature.admits args.length then selectForValues name args mismatch fs
    else if acceptsValues f.signature args then .ok f
    else
      let mismatch := if mismatch.isNone then firstMismatch f.signature args else mismatch
      selectForValues name args mismatch fs

/-- The function for evaluated arguments that do not fit the one chosen before the evaluation. -/
def redispatch (chain : List Scope) (name : String) (args : List Token) : Except Error Function :=
  selectForValues name args none (functionsNamed chain (Text.foldCase name))

end RuleExpr
