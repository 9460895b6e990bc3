import RuleExpr.Action
import RuleExpr.Token.Render

/-!
# Maps from keys and values

`kv` builds a map from pair blocks `(Key value...)`, flat arguments `key value`, or both. A block that calls a function
is not a pair but a key to be computed. A pair without a value has null, a pair with several has the list of them.
-/

namespace RuleExpr.KeyValues

/-- The value of a pair: null for none, the one, or the list of several. -/
def pairValue : List Token → Token
  | [] => .null
  | [v] => v
  | vs => .list vs

/-- The head and children of an argument that is a pair, and no call. So is a block that its overloads refuse. -/
def pair? (chain : List Scope) : Token → Except Error (Option (String × List Token))
  | .block head children =>
    if head.isEmpty then .ok none
    else
      match resolve chain head children with
      | .ok (some _) => .ok none
      | .ok none => .ok (some (head, children))
      | .error e => if e.aborts then .error e else .ok (some (head, children))
  | _ => .ok none

/-- Adds the entries that the arguments give, in order. -/
def addEntries (ev : Evaluator) (m : Entries Token) : List Token → Action (Entries Token)
  | [] => pure m
  | arg :: args => do
    let chain ← Action.chain
    match ← Action.ofExcept (pair? chain arg) with
    | some (key, children) =>
      let values ← ev.all children
      addEntries ev (m.insert key (pairValue values)) args
    | none =>
      let key ← ev arg
      match args with
      | [] => Action.fail (.invalidArgument (.keyWithoutValue key.text))
      | value :: args =>
        let v ← ev value
        addEntries ev (m.insert key.text v) args

/-- The map that the arguments give. -/
def run (ev : Evaluator) (args : List Token) : Action Token := do
  let m ← addEntries ev [] args
  pure (.map m)

/-- The map constructor of the catalogue. -/
def catalogue : List Function :=
  [⟨⟨"kv", [Kind.any], true, Kind.map,
    "A map from `(Key value)` pairs or flat key/value arguments; a call in key position is a computed key",
    "(kv (Name \"Joe\") (Age 42))"⟩, .builtin .keyValues⟩]

end RuleExpr.KeyValues
