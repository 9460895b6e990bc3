import RuleExpr.Proofs.Builtin.Aggregate
import RuleExpr.Proofs.Evaluation.Binder
import RuleExpr.Proofs.Simulation.Basic

/-!
# Iterators as loops over values

An iterator evaluates its body for each element in a new scope, which is dropped afterwards. So what the body gives for
an element (`Evaluator.valueAt`) depends on the element alone, and steps that leave the scope as it is compose like
their results (`Action.bind_steady`). An iterator is a loop over these values in which nothing but a failure is passed
on (`Iterator.outcome`, `Iterator.run_eq`), and so is a call of it: which overload is run does not depend on the
elements (`evaluate_list_call`).

- **A loop over a list in two parts is the loop over the first, and then that over the second**, and the state stays as
  it is (`Interpreter.iterators_append`).
-/

namespace RuleExpr

/-- What a body gives in a new scope in which a name has a value. -/
def Evaluator.valueAt (ev : Evaluator) (c : Context) (s : Scope) (name : String) (body value : Token) :
    Except Error Token :=
  (ev.withValue name value body c s).1

theorem Evaluator.withValue_steady (ev : Evaluator) (c : Context) (s : Scope) (name : String) (body value : Token) :
    ev.withValue name value body c s = (ev.valueAt c s name body value, s) := rfl

/-! ## Loops -/

namespace Iterator

section Outcome

variable (value : Token → Except Error Token)

/-- Whether the value for an element holds. -/
def holdsAt (t : Token) : Except Error Bool := (value t).map Token.isTruthy

/-- The value for an element, which has to be a decimal. -/
def decimalAt (t : Token) : Except Error Decimal := value t >>= Arguments.decimal "sum"

/-- The value for an element as a key, which has to be of a kind. -/
def keyAt (function : String) (kind : Kind) (t : Token) : Except Error Token := do
  let key ← value t
  if kind.accepts key.kind then .ok key else .error (Arguments.mismatch function kind key)

/-- The elements behind their keys. -/
def keyedItems (function : String) (kind : Kind) (items : List Token) : Except Error (List (Token × Token)) :=
  items.mapM fun t => (keyAt value function kind t).map (·, t)

/-- What an iterator gives, from the values that its body has for the elements. -/
def outcome : Iterator → List Token → Except Error Token
  | map, items => (items.mapM value).map .list
  | anyOf, items => (items.anyM (holdsAt value)).map .boolean
  | every, items => (items.allM (holdsAt value)).map .boolean
  | sum, items => (items.mapM (decimalAt value)).map fun ds => .decimal (ListOperation.total ds)
  | sortByNumber, items => (keyedItems value "sortByNumber" Kind.decimal items).map fun keyed => .list (sortKeyed keyed)
  | sortByString, items => (keyedItems value "sortByString" Kind.string items).map fun keyed => .list (sortKeyed keyed)

end Outcome

section Loop

variable {ev : Evaluator} {c : Context} {s : Scope} {name : String} {body : Token}

/-! By induction on the elements: each step leaves the scope as it was. -/

theorem mapItems_eq (ts : List Token) :
    mapItems ev name body ts c s = (ts.mapM (ev.valueAt c s name body), s) := by
  induction ts with
  | nil => rfl
  | cons t ts ih =>
    rw [List.mapM_cons]
    exact Action.bind_steady (ev.withValue_steady c s name body t) fun v => Action.bind_steady ih fun vs => rfl

theorem anyItem_eq (ts : List Token) :
    anyItem ev name body ts c s = (ts.anyM (holdsAt (ev.valueAt c s name body)), s) := by
  induction ts with
  | nil => rfl
  | cons t ts ih =>
    have hstep (v : Token) : (if v.isTruthy then pure true else anyItem ev name body ts : Action Bool) c s =
        (if v.isTruthy then .ok true else ts.anyM (holdsAt (ev.valueAt c s name body)), s) := by
      split
      · rfl
      · exact ih
    rw [List.anyM_cons, holdsAt]
    refine (Action.bind_steady (ev.withValue_steady c s name body t) hstep).trans (congrArg (·, s) ?_)
    cases ev.valueAt c s name body t <;> rfl

theorem everyItem_eq (ts : List Token) :
    everyItem ev name body ts c s = (ts.allM (holdsAt (ev.valueAt c s name body)), s) := by
  induction ts with
  | nil => rfl
  | cons t ts ih =>
    have hstep (v : Token) : (if v.isTruthy then everyItem ev name body ts else pure false : Action Bool) c s =
        (if v.isTruthy then ts.allM (holdsAt (ev.valueAt c s name body)) else .ok false, s) := by
      split
      · exact ih
      · rfl
    rw [List.allM_cons, holdsAt]
    refine (Action.bind_steady (ev.withValue_steady c s name body t) hstep).trans (congrArg (·, s) ?_)
    cases ev.valueAt c s name body t <;> rfl

theorem sumItems_eq (ts : List Token) (acc : Decimal) : sumItems ev name body acc ts c s =
    ((ts.mapM (decimalAt (ev.valueAt c s name body))).map (List.foldl Decimal.add acc), s) := by
  induction ts generalizing acc with
  | nil => rfl
  | cons t ts ih =>
    rw [List.mapM_cons, decimalAt]
    have hstep (v : Token) := Action.bind_steady (c := c) (s := s)
      (x := Action.ofExcept (Arguments.decimal "sum" v)) rfl fun d => ih (acc.add d)
    refine (Action.bind_steady (ev.withValue_steady c s name body t) hstep).trans (congrArg (·, s) ?_)
    cases ev.valueAt c s name body t with
    | error e => rfl
    | ok v =>
      show Arguments.decimal "sum" v >>= _ = Except.map _ (Arguments.decimal "sum" v >>= _)
      cases Arguments.decimal "sum" v with
      | error e => rfl
      | ok d =>
        show Except.map _ (ts.mapM _) = Except.map _ (ts.mapM _ >>= _)
        cases ts.mapM (decimalAt (ev.valueAt c s name body)) <;> rfl

theorem keyItems_eq (function : String) (kind : Kind) (ts : List Token) :
    keyItems ev name body function kind ts c s = (keyedItems (ev.valueAt c s name body) function kind ts, s) := by
  induction ts with
  | nil => rfl
  | cons t ts ih =>
    have hstep (key : Token) : (if kind.accepts key.kind then do
          let rest ← keyItems ev name body function kind ts
          pure ((key, t) :: rest)
        else Action.fail (Arguments.mismatch function kind key) : Action (List (Token × Token))) c s =
        (if kind.accepts key.kind then (keyedItems (ev.valueAt c s name body) function kind ts).map ((key, t) :: ·)
        else .error (Arguments.mismatch function kind key), s) := by
      split
      · refine (Action.bind_steady ih fun rest => rfl).trans (congrArg (·, s) ?_)
        cases keyedItems (ev.valueAt c s name body) function kind ts <;> rfl
      · rfl
    rw [keyedItems, List.mapM_cons, keyAt]
    refine (Action.bind_steady (ev.withValue_steady c s name body t) hstep).trans (congrArg (·, s) ?_)
    cases ev.valueAt c s name body t with
    | error e => rfl
    | ok key =>
      show (if _ then _ else _) = Except.map _ (if _ then _ else _) >>= _
      split
      · show _ = List.mapM _ ts >>= _
        rw [← keyedItems]
        cases keyedItems (ev.valueAt c s name body) function kind ts <;> rfl
      · rfl

/-- **An iterator is a loop over the values of its body**, and leaves the scope as it is. -/
theorem run_eq (op : Iterator) (args : List Token) : op.run ev args c s = (do
    let (items, name, body) ← loop (Binder.iterator op).name args
    op.outcome (ev.valueAt c s name body) items, s) := by
  cases op with
  | map => exact Action.bind_steady rfl fun _ => Action.bind_steady (mapItems_eq _) fun _ => rfl
  | anyOf => exact Action.bind_steady rfl fun _ => Action.bind_steady (anyItem_eq _) fun _ => rfl
  | every => exact Action.bind_steady rfl fun _ => Action.bind_steady (everyItem_eq _) fun _ => rfl
  | sum =>
    refine Action.bind_steady rfl fun (items, name, body) => ?_
    refine (Action.bind_steady (sumItems_eq items 0) fun d => rfl).trans (congrArg (·, s) ?_)
    show _ = Except.map _ (items.mapM (decimalAt (ev.valueAt c s name body)))
    cases items.mapM (decimalAt (ev.valueAt c s name body)) <;> rfl
  | sortByNumber => exact Action.bind_steady rfl fun _ => Action.bind_steady (keyItems_eq _ _ _) fun _ => rfl
  | sortByString => exact Action.bind_steady rfl fun _ => Action.bind_steady (keyItems_eq _ _ _) fun _ => rfl

end Loop

/-! ## Two parts of a list -/

section Append

variable {α : Type}

theorem anyM_append (p : α → Except Error Bool) (xs ys : List α) :
    (xs ++ ys).anyM p = (do if ← xs.anyM p then pure true else ys.anyM p) := by
  induction xs with
  | nil => rfl
  | cons x xs ih =>
    rw [List.cons_append, List.anyM_cons, List.anyM_cons, ih]
    cases p x with
    | error e => rfl
    | ok b => cases b <;> rfl

theorem allM_append (p : α → Except Error Bool) (xs ys : List α) :
    (xs ++ ys).allM p = (do if ← xs.allM p then ys.allM p else pure false) := by
  induction xs with
  | nil => rfl
  | cons x xs ih =>
    rw [List.cons_append, List.allM_cons, List.allM_cons, ih]
    cases p x with
    | error e => rfl
    | ok b => cases b <;> rfl

/-- For any list, an iterator fails in one way, or loops over it with one value for each element. -/
def Loops (op : Iterator) (result : List Token → Except Error Token) : Prop :=
  (∃ e, ∀ items, result items = .error e) ∨
    ∃ value wrap, ∀ items, result items = (op.outcome value items).mapError wrap

namespace Loops

variable {op : Iterator} {result : List Token → Except Error Token}

/-- What holds of every loop and of every failure holds of the iterator. -/
theorem exists_part {ctor : α → Token} {part : (Token → Except Error Token) → List Token → Except Error α}
    {Law : (List Token → Except Error α) → Prop} (h : op.Loops result)
    (hpart : ∀ value items, op.outcome value items = (part value items).map ctor)
    (herror : ∀ e, Law fun _ => .error e)
    (hloop : ∀ value (wrap : Error → Error), Law fun items => (part value items).mapError wrap) :
    ∃ r : List Token → Except Error α, (∀ items, result items = (r items).map ctor) ∧ Law r := by
  rcases h with ⟨e, he⟩ | ⟨value, wrap, hresult⟩
  · exact ⟨fun _ => .error e, he, herror e⟩
  · refine ⟨_, fun items => ?_, hloop value wrap⟩
    rw [hresult, hpart]
    cases part value items <;> rfl

theorem map_append (h : Loops .map result) : ∃ r : List Token → Except Error (List Token),
    (∀ items, result items = (r items).map .list) ∧ ∀ xs ys, r (xs ++ ys) = (do
      let us ← r xs
      let vs ← r ys
      pure (us ++ vs)) := by
  refine h.exists_part (fun _ _ => rfl) (fun _ _ _ => rfl) fun value wrap xs ys => ?_
  dsimp only
  rw [List.mapM_append]
  cases xs.mapM value with
  | error e => rfl
  | ok us => cases ys.mapM value <;> rfl

theorem any_append (h : Loops .anyOf result) : ∃ r : List Token → Except Error Bool,
    (∀ items, result items = (r items).map .boolean) ∧
      ∀ xs ys, r (xs ++ ys) = (do if ← r xs then pure true else r ys) := by
  refine h.exists_part (fun _ _ => rfl) (fun _ _ _ => rfl) fun value wrap xs ys => ?_
  dsimp only
  rw [anyM_append]
  cases xs.anyM (holdsAt value) with
  | error e => rfl
  | ok b => cases b <;> rfl

theorem every_append (h : Loops .every result) : ∃ r : List Token → Except Error Bool,
    (∀ items, result items = (r items).map .boolean) ∧
      ∀ xs ys, r (xs ++ ys) = (do if ← r xs then r ys else pure false) := by
  refine h.exists_part (fun _ _ => rfl) (fun _ _ _ => rfl) fun value wrap xs ys => ?_
  dsimp only
  rw [allM_append]
  cases xs.allM (holdsAt value) with
  | error e => rfl
  | ok b => cases b <;> rfl

theorem sum_append (h : Loops .sum result) : ∃ r : List Token → Except Error Decimal,
    (∀ items, result items = (r items).map .decimal) ∧ ∀ xs ys, (r (xs ++ ys)).map Decimal.toRat = (do
      let a ← r xs
      let b ← r ys
      pure (a.toRat + b.toRat)) := by
  have hpart (value : Token → Except Error Token) (items : List Token) :
      Iterator.sum.outcome value items = ((items.mapM (decimalAt value)).map ListOperation.total).map .decimal := by
    rw [outcome]
    cases items.mapM (decimalAt value) <;> rfl
  refine h.exists_part hpart (fun _ _ _ => rfl) fun value wrap xs ys => ?_
  dsimp only
  rw [List.mapM_append]
  cases xs.mapM (decimalAt value) with
  | error e => rfl
  | ok ds =>
    cases ys.mapM (decimalAt value) with
    | error e => rfl
    | ok es =>
      show Except.ok (ListOperation.total (ds ++ es)).toRat = .ok (_ + _)
      rw [ListOperation.total_append, Decimal.toRat_add]

end Loops

end Append

end Iterator

/-! ## Calls of iterators -/

section Call

variable {c : Context} {s s' : Scope} {p : Spelling} {name : String} {body value : Token} {items : List Token}
  {depth : Nat} {op : Iterator} {f : Function}

/-- What is run for a call with a list is the overload that was resolved. -/
theorem evaluate_iterator_of_resolve (hf : f.Declared ((Binder.iterator op).signature p) (.iterator op))
    (hr : resolve (s :: c.parents) (Binder.iterator op).name (value :: p.rest name body) = .ok (some f))
    (hv : evaluate depth value c s = (.ok (.list items), s')) :
    evaluate (depth + 1) (p.call (Binder.iterator op).name value name body) c s =
      ((do
        let (items, name, body) ← Iterator.loop (Binder.iterator op).name (.list items :: p.rest name body)
        op.outcome ((evaluate depth).valueAt c s' name body) items).mapError (.call f.signature.render), s') := by
  have hargs : evaluateArguments (evaluate depth) f.signature 0 (value :: p.rest name body) c s =
      (.ok (.list items :: p.rest name body), s') := evaluateArguments_of_ok (b := .iterator op) hf hv
  have hlist : Kind.list.accepts (Token.list items).kind = true := by
    rw [Token.kind]
    decide
  have haccepts : acceptsValues f.signature (.list items :: p.rest name body) = true := by
    rw [hf.acceptsValues_eq, Binder.acceptsValues_call]
    exact hlist
  have hprepare : prepare (evaluate depth) (Binder.iterator op).name (value :: p.rest name body) c s =
      (.ok (some ⟨f, .list items :: p.rest name body⟩), s') := by
    rw [prepare_of_some hr, Action.bind_of_ok hargs, if_pos haccepts]
    rfl
  have hreturns : f.signature.returns.quotes = false := by
    rw [hf.returns]
    exact Binder.returns_quotes _ p
  show evaluateBlock _ _ _ c s = _
  rw [evaluateBlock_of_prepare (isEmpty_of_foldCase (b := .iterator op) rfl) hprepare,
    Call.run_of_returns hreturns, hf.body]
  exact Action.within_steady f.signature (Iterator.run_eq op _)

/-- **A call of an iterator is a loop.** The overload is resolved without regard to the elements. -/
theorem evaluate_list_call (h : Offers (s :: c.parents) (Binder.iterator op).name) (p : Spelling) (name : String)
    (body : Token) : ∃ text, ∀ depth items,
      evaluate (depth + 1) (p.call (Binder.iterator op).name (.list items) name body) c s = ((do
        let (items, name, body) ← Iterator.loop (Binder.iterator op).name (.list items :: p.rest name body)
        op.outcome ((evaluate depth).valueAt c s name body) items).mapError (.call text), s) := by
  have haccepts (items : List Token) : acceptsChildren (s :: c.parents) ((Binder.iterator op).signature p)
      (.list items :: p.rest name body) = .ok true := by
    rw [Binder.acceptsChildren_call]
    exact congrArg Except.ok (by decide : Kind.list.accepts Kind.list = true)
  obtain ⟨f, hf, hresolve⟩ :=
    resolve_of_sole h ((Binder.iterator op).sole_call p name body rfl (.list [])) (haccepts [])
  exact ⟨f.signature.render, fun depth items => evaluate_iterator_of_resolve hf hresolve
    (congrFun (congrFun (evaluate_of_not_block rfl) c) s)⟩

/-- The name that is bound is not empty, as far as the spelling asks for that. -/
def Spelling.Binds (p : Spelling) (name : String) : Prop := p = .lambda → name ≠ ""

theorem Iterator.loop_of_binds (hname : p.Binds name) (function : String) (items : List Token) (body : Token) :
    loop function (.list items :: p.rest name body) = .ok (items, name, body) := by
  cases p with
  | apart => rfl
  | lambda => simp [loop, Spelling.rest, lambda, hname rfl, Arguments.list, bind, Except.bind]

theorem Iterator.exists_loop_eq_error (hname : ¬ p.Binds name) (function : String) (body : Token) :
    ∃ e, ∀ items, loop function (.list items :: p.rest name body) = .error e := by
  cases p with
  | apart => exact absurd nofun hname
  | lambda =>
    obtain rfl : name = "" := by_contra fun hne => hname fun _ => hne
    exact ⟨_, fun items => rfl⟩

/-- Where the spelling binds the name, an iterator loops over the values of its body. -/
theorem evaluate_call_of_binds (h : Offers (s :: c.parents) (Binder.iterator op).name) (hname : p.Binds name)
    (body : Token) : ∃ text, ∀ depth items,
      evaluate (depth + 1) (p.call (Binder.iterator op).name (.list items) name body) c s =
        ((op.outcome ((evaluate depth).valueAt c s name body) items).mapError (.call text), s) := by
  obtain ⟨text, hcall⟩ := evaluate_list_call h p name body
  refine ⟨text, fun depth items => ?_⟩
  rw [hcall, Iterator.loop_of_binds hname]
  rfl

/-- So it does for a list that is computed. -/
theorem evaluate_iterator (h : Offers (s :: c.parents) (Binder.iterator op).name) (hname : p.Binds name)
    (hc : acceptsChild (s :: c.parents) Kind.list value = .ok true)
    (hv : evaluate depth value c s = (.ok (.list items), s')) (body : Token) :
    ∃ text, evaluate (depth + 1) (p.call (Binder.iterator op).name value name body) c s =
      ((op.outcome ((evaluate depth).valueAt c s' name body) items).mapError (.call text), s') := by
  have haccepts := (Binder.acceptsChildren_call (.iterator op) p name body (s :: c.parents) value).trans hc
  obtain ⟨f, hf, hresolve⟩ := resolve_of_sole h ((Binder.iterator op).sole_call p name body rfl value) haccepts
  refine ⟨f.signature.render, ?_⟩
  rw [evaluate_iterator_of_resolve hf hresolve hv, Iterator.loop_of_binds hname]
  rfl

/-- Whatever the depth and the spelling, a call of an iterator loops, and leaves the scope as it is. -/
theorem loops_evaluate (h : Offers (s :: c.parents) (Binder.iterator op).name) (p : Spelling) (name : String)
    (body : Token) (depth : Nat) : ∃ result, op.Loops result ∧ ∀ items,
      evaluate depth (p.call (Binder.iterator op).name (.list items) name body) c s = (result items, s) := by
  cases depth with
  | zero => exact ⟨fun _ => .error _, .inl ⟨_, fun _ => rfl⟩, fun _ => rfl⟩
  | succ depth =>
    by_cases hname : p.Binds name
    · obtain ⟨text, hcall⟩ := evaluate_call_of_binds h hname body
      exact ⟨_, .inr ⟨_, _, fun _ => rfl⟩, fun items => hcall depth items⟩
    · obtain ⟨text, hcall⟩ := evaluate_list_call h p name body
      obtain ⟨e, he⟩ := Iterator.exists_loop_eq_error hname (Binder.iterator op).name body
      refine ⟨fun _ => .error (.call text e), .inl ⟨_, fun _ => rfl⟩, fun items => ?_⟩
      rw [hcall, he]
      rfl

end Call

namespace Interpreter

/-- What a body gives in a new scope of an interpreter in which a name has a value. -/
def valueIn (i : Interpreter) (depth : Nat) (name : String) (body value : Token) : Except Error Token :=
  ((i.newScope.set name value).2.run (RuleExpr.evaluate depth body)).1

variable {i : Interpreter}

theorem valueIn_eq (depth : Nat) (name : String) (body : Token) : i.valueIn depth name body =
    (RuleExpr.evaluate depth).valueAt ⟨i.config, i.parents⟩ i.scope name body := by
  funext value
  have hset : (i.newScope.set name value).2 = ⟨i.config, { binding := .map [(name, value)] }, i.chain⟩ := by
    show (i.newScope.run (Action.set name value)).2 = _
    rw [run]
    simp only [newScope, Action.set_empty]
  rw [valueIn, hset, Evaluator.valueAt, Evaluator.withValue_eq]
  rfl

/-- **Iterators treat the elements one by one, in order.** For any spelling, name, body and number of levels left, the
interpreter is the same after a call, and the result for a list in two parts comes from the results for the parts: the
lists of `map` are put together, `exists` and `every` look at the second part only where the first has not decided, and
sums are added exactly; a failure for the first part is the failure for both. What is done for an element is to evaluate
the body in a new scope that has the element, whatever the other elements are. -/
theorem iterators_append (h : HasCatalogue i.chain) (p : Spelling) (name : String) (body : Token) (depth : Nat) :
    let call (op : Iterator) (items : List Token) :=
      i.run (RuleExpr.evaluate depth (p.call (Binder.iterator op).name (.list items) name body))
    (∀ op items, (call op items).2 = i) ∧
      (∃ r : List Token → Except Error (List Token), (∀ items, (call .map items).1 = (r items).map .list) ∧
        ∀ xs ys, r (xs ++ ys) = do
          let us ← r xs
          let vs ← r ys
          pure (us ++ vs)) ∧
      (∃ r : List Token → Except Error Bool, (∀ items, (call .anyOf items).1 = (r items).map .boolean) ∧
        ∀ xs ys, r (xs ++ ys) = (do if ← r xs then pure true else r ys)) ∧
      (∃ r : List Token → Except Error Bool, (∀ items, (call .every items).1 = (r items).map .boolean) ∧
        ∀ xs ys, r (xs ++ ys) = (do if ← r xs then r ys else pure false)) ∧
      (∃ r : List Token → Except Error Decimal, (∀ items, (call .sum items).1 = (r items).map .decimal) ∧
        ∀ xs ys, (r (xs ++ ys)).map Decimal.toRat = do
          let a ← r xs
          let b ← r ys
          pure (a.toRat + b.toRat)) ∧
      ∀ d, depth = d + 1 → p.Binds name → ∀ op, ∃ text, ∀ items,
        (call op items).1 = (op.outcome (i.valueIn d name body) items).mapError (.call text) := by
  intro call
  have hcall (op : Iterator) : op.Loops (fun items => (call op items).1) ∧ ∀ items, (call op items).2 = i := by
    obtain ⟨result, hloops, hresult⟩ :=
      loops_evaluate (c := ⟨i.config, i.parents⟩) (s := i.scope) (h.offers _) p name body depth
    have hrun (items : List Token) : call op items = (result items, i) := run_steady (hresult items)
    refine ⟨?_, fun items => congrArg Prod.snd (hrun items)⟩
    rwa [funext fun items => congrArg Prod.fst (hrun items)]
  refine ⟨fun op => (hcall op).2, (hcall .map).1.map_append, (hcall .anyOf).1.any_append, (hcall .every).1.every_append,
    (hcall .sum).1.sum_append, ?_⟩
  rintro d rfl hname op
  obtain ⟨text, htext⟩ := evaluate_call_of_binds (c := ⟨i.config, i.parents⟩) (s := i.scope) (h.offers _) hname body
  refine ⟨text, fun items => ?_⟩
  rw [valueIn_eq, show call op items = _ from run_steady (htext d items)]

/-- `(map items x (set acc (+ (. acc) (. x))))` -/
def accumulating (items : List Token) : Token :=
  .block "map" [.list items, .string "x",
    .block "set" [.string "acc", .block "+" [.block "." [.string "acc"], .block "." [.string "x"]]]]

/-- A name outside has a value. -/
def accumulator : Interpreter := root {} (.map [("acc", .decimal 10)])

/-- Each element is added to what the name had before the call. -/
theorem iterators_append_accumulator :
    let call (items : List Token) := accumulator.run (RuleExpr.evaluate 4 (accumulating items))
    HasCatalogue accumulator.chain ∧
      (call ([.decimal 1] ++ [.decimal 2])).1 = .ok (.list [.decimal 11, .decimal 12]) ∧
      ∀ items, (call items).2 = accumulator := by
  have hc : HasCatalogue accumulator.chain := HasCatalogue.root {} _
  obtain ⟨hsame, ⟨r, hr, happend⟩, -⟩ := iterators_append hc .apart "x"
    (.block "set" [.string "acc", .block "+" [.block "." [.string "acc"], .block "." [.string "x"]]]) 4
  have hfirst : (accumulator.run (RuleExpr.evaluate 4 (accumulating [.decimal 1]))).1 =
      .ok (.list [.decimal 11]) := by cbv
  have hsecond : (accumulator.run (RuleExpr.evaluate 4 (accumulating [.decimal 2]))).1 =
      .ok (.list [.decimal 12]) := by cbv
  obtain ⟨us, hus, hfirst⟩ := map_eq_ok ((hr _).symm.trans hfirst)
  obtain ⟨vs, hvs, hsecond⟩ := map_eq_ok ((hr _).symm.trans hsecond)
  have hboth := happend [.decimal 1] [.decimal 2]
  rw [hus, hvs, Token.list.inj hfirst, Token.list.inj hsecond] at hboth
  exact ⟨hc, (hr _).trans (congrArg (Except.map Token.list) hboth), hsame .map⟩

end Interpreter

end RuleExpr
