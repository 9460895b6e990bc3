import RuleExpr.Action
import RuleExpr.Builtin.List

/-!
# Iterators

An iterator evaluates a body once for each element of a list, in order, each time in a new scope in which a name has the
element. It is called as `list name body`, or as `list ((name) body)`.
-/

namespace RuleExpr

/-- The name and body of `((name) body)`. -/
def lambda (function : String) (t : Token) : Except Error (String × Token) :=
  match t with
  | .block "" [.block name [], body] =>
    if name.isEmpty then .error (.invalidArgument (.notALambda function t.render)) else .ok (name, body)
  | _ => .error (.invalidArgument (.notALambda function t.render))

namespace Iterator

/-- The elements, the name and the body of an iterator call in either form. -/
def loop (function : String) (args : List Token) : Except Error (List Token × String × Token) := do
  let items ← Arguments.list function (args.headD .null)
  match args with
  | _ :: name :: body :: _ => .ok (items, name.text, body)
  | [_, l] => do
    let (name, body) ← lambda function l
    .ok (items, name, body)
  | _ => .error (.invalidArgument (.missingBody function))

section

variable (ev : Evaluator) (name : String) (body : Token)

/-- The values of the body for the elements. -/
def mapItems : List Token → Action (List Token)
  | [] => pure []
  | t :: ts => do
    let v ← ev.withValue name t body
    let vs ← mapItems ts
    pure (v :: vs)

/-- Whether the body holds for one of the elements; those after the first such are left out. -/
def anyItem : List Token → Action Bool
  | [] => pure false
  | t :: ts => do
    let v ← ev.withValue name t body
    if v.isTruthy then pure true else anyItem ts

/-- Whether the body holds for all elements; those after the first for which it does not are left out. -/
def everyItem : List Token → Action Bool
  | [] => pure true
  | t :: ts => do
    let v ← ev.withValue name t body
    if v.isTruthy then everyItem ts else pure false

/-- The sum of the values of the body, added to `acc`. -/
def sumItems (acc : Decimal) : List Token → Action Decimal
  | [] => pure acc
  | t :: ts => do
    let v ← ev.withValue name t body
    let d ← Action.ofExcept (Arguments.decimal "sum" v)
    sumItems (acc.add d) ts

/-- The elements, each behind its key, the value of the body. -/
def keyItems (function : String) (kind : Kind) : List Token → Action (List (Token × Token))
  | [] => pure []
  | t :: ts => do
    let key ← ev.withValue name t body
    if kind.accepts key.kind then do
      let rest ← keyItems function kind ts
      pure ((key, t) :: rest)
    else Action.fail (Arguments.mismatch function kind key)

end

/-- The elements in ascending order of their keys, those with equal keys in their own order. -/
def sortKeyed (keyed : List (Token × Token)) : List Token :=
  (keyed.mergeSort fun a b => Token.ordered a.1 b.1).map Prod.snd

/-- Sorts the elements by the values of the body, which have to be of one kind. -/
def sortBy (ev : Evaluator) (function : String) (kind : Kind) (args : List Token) : Action Token := do
  let (items, name, body) ← Action.ofExcept (loop function args)
  let keyed ← keyItems ev name body function kind items
  pure (.list (sortKeyed keyed))

/-- What an iterator does. -/
def run (ev : Evaluator) : Iterator → List Token → Action Token
  | map, args => do
    let (items, name, body) ← Action.ofExcept (loop "map" args)
    let vs ← mapItems ev name body items
    pure (.list vs)
  | anyOf, args => do
    let (items, name, body) ← Action.ofExcept (loop "exists" args)
    let b ← anyItem ev name body items
    pure (.boolean b)
  | every, args => do
    let (items, name, body) ← Action.ofExcept (loop "every" args)
    let b ← everyItem ev name body items
    pure (.boolean b)
  | sum, args => do
    let (items, name, body) ← Action.ofExcept (loop "sum" args)
    let d ← sumItems ev name body 0 items
    pure (.decimal d)
  | sortByNumber, args => sortBy ev "sortByNumber" Kind.decimal args
  | sortByString, args => sortBy ev "sortByString" Kind.string args

/-- The two overloads of an iterator. -/
def overloads (name : String) (returns : Kind) (op : Iterator) (description sample : String) : List Function :=
  [⟨⟨name, [Kind.list, Kind.any], false, returns, description, sample⟩, .builtin (.iterator op)⟩,
    ⟨⟨name, [Kind.list, Kind.string, Kind.any], false, returns, description, sample⟩, .builtin (.iterator op)⟩]

/-- The iterators of the catalogue, in order of registration. -/
def catalogue : List Function :=
  overloads "map" Kind.list map "The body evaluated once per element" "(map (. Items) x (. x Price))"
  ++ overloads "exists" Kind.boolean anyOf "Whether the body holds for some element"
    "(exists (. Items) x (= (. x SKU) \"X\"))"
  ++ overloads "every" Kind.boolean every "Whether the body holds for every element"
    "(every (. Items) x (> (. x Qty) 0))"
  ++ overloads "sum" Kind.decimal sum "Sum of the body evaluated per element" "(sum (. Items) x (. x Price))"
  ++ overloads "sortByNumber" Kind.list sortByNumber "Elements ordered by a decimal key"
    "(sortByNumber (. Items) x (. x Price))"
  ++ overloads "sortByString" Kind.list sortByString "Elements ordered by a string key"
    "(sortByString (. Items) x (. x Name))"

end Iterator

end RuleExpr
