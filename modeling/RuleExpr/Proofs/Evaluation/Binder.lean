import RuleExpr.Proofs.Evaluation.Catalogue

/-!
# Two spellings of a binder

The iterators and `do` evaluate a body in which a name is bound. The name and the body stand in a call one after the
other, or together as `((name) body)` (`Spelling`). Each spelling has an overload of its own, with parameters of its own
and other arguments quoted.

Whatever the spelling, only the first argument is evaluated, and it alone decides whether the call is accepted, before
it is evaluated and afterwards (`acceptsChildren_call`, `acceptsValues_call`). Then both overloads do the same
(`Binder.run_eq`). So the call is left as it is or does what is meant by it, and neither depends on the spelling
(`byCause_evaluateBlock`, and `validate_call` for dry runs).

- **In every state of an interpreter, both spellings give equal values, fail for the same cause, or are left as they
  are, and they leave the same behind** (`Interpreter.spellings_agree`).
-/

namespace RuleExpr

/-! ## Binders and their spellings -/

/-- The functions that evaluate a body in which a name is bound, for each element of a list or for one value. -/
inductive Binder where
  | iterator (op : Iterator)
  | single

/-- How the name and the body stand in a call: one after the other, or as `((name) body)`. -/
inductive Spelling where
  | apart
  | lambda

namespace Binder

/-- The name of the function. -/
def name : Binder → String
  | iterator .map => "map"
  | iterator .anyOf => "exists"
  | iterator .every => "every"
  | iterator .sum => "sum"
  | iterator .sortByNumber => "sortByNumber"
  | iterator .sortByString => "sortByString"
  | single => "do"

/-- What the function takes first. -/
def subject : Binder → Kind
  | iterator _ => Kind.list
  | single => Kind.value

/-- What the function gives. -/
def returns : Binder → Kind
  | iterator .map | iterator .sortByNumber | iterator .sortByString => Kind.list
  | iterator .anyOf | iterator .every => Kind.boolean
  | iterator .sum => Kind.decimal
  | single => Kind.value

/-- The declaration of the overload for a spelling. -/
def signature (b : Binder) : Spelling → Signature
  | .apart => ⟨b.name, [b.subject, Kind.string, Kind.any], false, b.returns, "", ""⟩
  | .lambda => ⟨b.name, [b.subject, Kind.any], false, b.returns, "", ""⟩

/-- What the overload for a spelling does. -/
def op : Binder → Spelling → Builtin
  | iterator op, _ => .iterator op
  | single, .apart => .control .bind
  | single, .lambda => .control .bindLambda

end Binder

/-- The arguments after the first. -/
def Spelling.rest (name : String) (body : Token) : Spelling → List Token
  | apart => [.string name, body]
  | lambda => [.block "" [.block name [], body]]

/-- A call of a function in a spelling. -/
def Spelling.call (p : Spelling) (head : String) (value : Token) (name : String) (body : Token) : Token :=
  .block head (value :: p.rest name body)

namespace Binder

variable (b : Binder) (p : Spelling) (name : String) (body : Token)

/-- All binders. -/
def all : List Binder :=
  [.iterator .map, .iterator .anyOf, .iterator .every, .iterator .sum, .iterator .sortByNumber,
    .iterator .sortByString, .single]

theorem mem_all : b ∈ all := by
  rcases b with (_ | _ | _ | _ | _ | _) | _ <;> simp [all]

theorem declares_all : ∀ b ∈ all, ∀ p ∈ [Spelling.apart, Spelling.lambda],
    (catalogue.filter fun f => f.signature.key == Text.foldCase b.name &&
      f.signature.admits (b.signature p).parameters.length).map (Function.declares · (b.signature p) (b.op p)) =
        [true] := by
  decide +kernel

/-- The overload for a spelling is the only function with its name for as many arguments. -/
theorem sole : Function.Sole b.name (b.signature p).parameters.length (b.signature p) (b.op p) :=
  Function.sole_of_filter (declares_all b b.mem_all p (by cases p <;> simp))

theorem sole_call {head : String} (hhead : Text.foldCase head = Text.foldCase b.name) (value : Token) :
    Function.Sole head (value :: p.rest name body).length (b.signature p) (b.op p) := by
  have hlength : (value :: p.rest name body).length = (b.signature p).parameters.length := by
    cases p <;> rfl
  rw [hlength]
  obtain ⟨hexists, hdeclares⟩ := b.sole p
  exact ⟨hhead ▸ hexists, hhead ▸ hdeclares⟩

theorem parameterKind_zero : (b.signature p).parameterKind 0 = b.subject := by
  cases p <;> rfl

theorem quotes_zero : (b.signature p).quotes 0 = false := by
  rw [Signature.quotes, parameterKind_zero]
  cases b with
  | iterator => exact (by decide : Kind.list.quotes = false)
  | single => exact (by decide : Kind.value.quotes = false)

theorem quotes_rest : (b.signature .apart).quotes 1 = false ∧ (b.signature .apart).quotes 2 = true ∧
    (b.signature .lambda).quotes 1 = true :=
  ⟨(by decide : Kind.string.quotes = false), (by decide : Kind.any.quotes = true),
    (by decide : Kind.any.quotes = true)⟩

theorem returns_quotes : (b.signature p).returns.quotes = false := by
  cases p <;> rcases b with (_ | _ | _ | _ | _ | _) | _ <;> rfl

theorem accepts_name : Kind.string.accepts (Token.string name).kind = true := by
  rw [Token.kind]
  decide

/-- Whether a call is accepted is a matter of the first argument. -/
theorem acceptsChildren_call (chain : List Scope) (value : Token) :
    acceptsChildren chain (b.signature p) (value :: p.rest name body) = acceptsChild chain b.subject value := by
  have hname : acceptsChild chain Kind.string (.string name) = .ok true := congrArg Except.ok (accepts_name name)
  have hrest : ((p.rest name body).zipIdx 1).allM (fun child =>
      acceptsChild chain ((b.signature p).parameterKind child.2) child.1) = .ok true := by
    rw [allM_eq_true_iff]
    cases p <;> simp [Spelling.rest, signature, Signature.parameterKind, acceptsChild_any, hname]
  rw [acceptsChildren, List.zipIdx_cons, List.allM_cons]
  dsimp only
  rw [parameterKind_zero]
  cases acceptsChild chain b.subject value with
  | error e => rfl
  | ok accepted =>
    cases accepted with
    | false => rfl
    | true => exact hrest

theorem acceptsValues_call (v : Token) :
    acceptsValues (b.signature p) (v :: p.rest name body) = b.subject.accepts v.kind := by
  have hfirst : b.subject.quotes = false := b.parameterKind_zero p ▸ b.quotes_zero p
  cases p <;>
    simp [acceptsValues, Spelling.rest, signature, Signature.quotes, Signature.parameterKind, hfirst, accepts_name,
      Token.any_accepts_kind]

end Binder

/-! ## Outcomes by their causes -/

/-- What a run gives and leaves, where of an error the cause alone counts. -/
def byCause {α : Type} (r : Except Error α × Scope) : Except ErrorKind α × Scope := (r.1.mapError Error.kind, r.2)

section Cause

variable {α : Type} {c : Context} {s : Scope}

/-- The calls that an error came through do not count. -/
theorem byCause_within (signature : Signature) (x : Action α) :
    byCause (Action.within signature x c s) = byCause (x c s) := by
  unfold Action.within
  split
  · next h => rw [h]
  · next h =>
    rw [h]
    rfl

/-- A call of a function that gives back no trees gives what its body gives. -/
theorem byCause_run {ev : Evaluator} {call : Call} (h : call.function.signature.returns.quotes = false) :
    byCause (call.run ev c s) = byCause (call.function.body.run ev call.args c s) := by
  rw [Call.run_of_returns h, byCause_within]

end Cause

/-! ## What a call means -/

section Call

variable {b : Binder} {p : Spelling} {name head : String} {body value v : Token} {c : Context} {s s' : Scope}
  {depth : Nat} {f : Function} {e : Error}

/-- The arguments after the first are passed as they are. -/
theorem evaluateArguments_rest (hf : f.Declared (b.signature p) (b.op p)) :
    evaluateArguments (evaluate depth) f.signature 1 (p.rest name body) c s = (.ok (p.rest name body), s) := by
  obtain ⟨hname, hbody, hlambda⟩ := b.quotes_rest
  cases p with
  | apart =>
    simp only [Spelling.rest, evaluateArguments, hf.quotes_eq, hname, hbody, Bool.false_eq_true, if_false, if_true]
    rw [evaluate_of_not_block (t := .string name) rfl]
    rfl
  | lambda =>
    simp only [Spelling.rest, evaluateArguments, hf.quotes_eq, hlambda, if_true]
    rfl

theorem evaluateArgument_first (hf : f.Declared (b.signature p) (b.op p)) :
    evaluateArgument (evaluate depth) f.signature 0 value = Action.within f.signature (evaluate depth value) := by
  rw [evaluateArgument, hf.quotes_eq, b.quotes_zero, if_neg Bool.false_ne_true]

theorem evaluateArguments_of_ok (hf : f.Declared (b.signature p) (b.op p))
    (hv : evaluate depth value c s = (.ok v, s')) :
    evaluateArguments (evaluate depth) f.signature 0 (value :: p.rest name body) c s =
      (.ok (v :: p.rest name body), s') := by
  have hfirst : evaluateArgument (evaluate depth) f.signature 0 value c s = (.ok v, s') := by
    rw [evaluateArgument_first hf, Action.within, hv]
  rw [evaluateArguments_cons, Action.bind_of_ok hfirst]
  exact Action.bind_of_ok (evaluateArguments_rest hf) _

theorem evaluateArguments_of_error (hf : f.Declared (b.signature p) (b.op p))
    (he : evaluate depth value c s = (.error e, s')) :
    evaluateArguments (evaluate depth) f.signature 0 (value :: p.rest name body) c s =
      (.error (.call f.signature.render e), s') := by
  have hfirst : evaluateArgument (evaluate depth) f.signature 0 value c s =
      (.error (.call f.signature.render e), s') := by
    rw [evaluateArgument_first hf, Action.within, he]
  rw [evaluateArguments_cons]
  exact Action.bind_of_error hfirst

/-- What running a call means, whatever its spelling: the first argument is evaluated, has to be of the right kind, and
then the body is evaluated with it. -/
def Binder.meaning (b : Binder) (depth : Nat) (value : Token) (name : String) (body : Token) (c : Context) (s : Scope) :
    Except ErrorKind Token × Scope :=
  match evaluate depth value c s with
  | (.ok v, s) =>
    if b.subject.accepts v.kind then
      byCause ((b.op .apart).run (evaluate depth) (v :: Spelling.apart.rest name body) c s)
    else (.error .kindMismatch, s)
  | (.error e, s) => (.error e.kind, s)

theorem Binder.meaning_of_ok (hv : evaluate depth value c s = (.ok v, s')) :
    b.meaning depth value name body c s = if b.subject.accepts v.kind then
      byCause ((b.op .apart).run (evaluate depth) (v :: Spelling.apart.rest name body) c s')
    else (.error .kindMismatch, s') := by
  rw [Binder.meaning, hv]

/-- The body of either overload does the same. -/
theorem Binder.run_eq (b : Binder) (p : Spelling) (ev : Evaluator) (hname : name ≠ "") (v body : Token) :
    (b.op p).run ev (v :: p.rest name body) = (b.op .apart).run ev (v :: Spelling.apart.rest name body) := by
  cases p with
  | apart => rfl
  | lambda =>
    have hlambda (function : String) : lambda function (.block "" [.block name [], body]) = .ok (name, body) := by
      simp [lambda, hname]
    cases b with
    | iterator op =>
      have hloop (function : String) : Iterator.loop function (v :: Spelling.lambda.rest name body) =
          Iterator.loop function (v :: Spelling.apart.rest name body) := by
        simp only [Iterator.loop, Spelling.rest, hlambda]
        rfl
      cases op <;> simp only [Binder.op, Builtin.run, Iterator.run, Iterator.sortBy, hloop]
    | single =>
      show (Action.ofExcept (lambda "do" _) >>= fun r => ev.withValue r.1 v r.2) = ev.withValue name v body
      rw [hlambda]
      rfl

theorem isEmpty_of_foldCase (h : Text.foldCase head = Text.foldCase b.name) : head.isEmpty = false := by
  rw [String.isEmpty_eq_false_iff]
  rintro rfl
  rcases b with (_ | _ | _ | _ | _ | _) | _ <;> exact absurd h (by decide +kernel)

/-- A call whose first argument is accepted does what is meant by it: the argument is evaluated, and its value is
accepted, too, or it is of the wrong kind. -/
theorem byCause_evaluateBlock_of_accepted (h : HasCatalogue (s :: c.parents))
    (hhead : Text.foldCase head = Text.foldCase b.name) (hname : name ≠ "") (p : Spelling) (value body : Token)
    (depth : Nat) (hc : acceptsChild (s :: c.parents) b.subject value = .ok true) :
    byCause (evaluateBlock (evaluate depth) head (value :: p.rest name body) c s) =
      b.meaning depth value name body c s := by
  have hh := isEmpty_of_foldCase hhead
  have hsole := b.sole_call p name body hhead value
  have hc := (b.acceptsChildren_call p name body (s :: c.parents) value).trans hc
  cases hv : evaluate depth value c s with
  | mk r s' =>
    cases r with
    | error e =>
      obtain ⟨f, hf, hresolve⟩ := resolve_of_sole (h.offers _) hsole hc
      have hprepare := (prepare_of_some hresolve).trans (Action.bind_of_error (evaluateArguments_of_error hf hv))
      rw [evaluateBlock_of_error hh hprepare, Binder.meaning, hv]
      rfl
    | ok v =>
      have hargs (f : Function) (hf : f.Declared (b.signature p) (b.op p)) :
          evaluateArguments (evaluate depth) f.signature 0 (value :: p.rest name body) c s =
            (.ok (v :: p.rest name body), s') := evaluateArguments_of_ok hf hv
      have hvalues := b.acceptsValues_call p name body v
      rw [Binder.meaning_of_ok hv]
      cases haccepts : b.subject.accepts v.kind with
      | true =>
        obtain ⟨f, hf, hprepare⟩ := prepare_of_sole (h.offers _) hsole hc hargs (hvalues.trans haccepts)
        rw [evaluateBlock_of_prepare hh hprepare, byCause_run (hf.returns ▸ b.returns_quotes p), hf.body, if_pos rfl]
        exact congrArg (fun x : Action Token => byCause (x c s')) (b.run_eq p _ hname v body)
      | false =>
        have hs : s'.functions = s.functions := (keeps_evaluate depth value).eq_of_run h.builtins hv
        obtain ⟨context, expected, found, hprepare⟩ :=
          prepare_of_sole_refused (h.offers _) hsole hc hargs hs (hvalues.trans haccepts)
        rw [evaluateBlock_of_error hh hprepare]
        rfl

/-- **A call stays as it is where its first argument is not accepted, and else it does what is meant by it**, whatever
its spelling, unless the look-ahead fails. -/
theorem byCause_evaluateBlock (h : HasCatalogue (s :: c.parents)) (hhead : Text.foldCase head = Text.foldCase b.name)
    (hname : name ≠ "") (p : Spelling) (value body : Token) (depth : Nat) :
    byCause (evaluateBlock (evaluate depth) head (value :: p.rest name body) c s) =
      match acceptsChild (s :: c.parents) b.subject value with
      | .error e => (.error e.kind, s)
      | .ok true => b.meaning depth value name body c s
      | .ok false => (.ok (p.call head value name body), s) := by
  have hh := isEmpty_of_foldCase hhead
  have hsole := b.sole_call p name body hhead value
  have hchildren := b.acceptsChildren_call p name body (s :: c.parents) value
  match hc : acceptsChild (s :: c.parents) b.subject value with
  | .error e =>
    have hprepare : prepare (evaluate depth) head (value :: p.rest name body) c s = (.error e, s) :=
      prepare_of_error (resolve_of_sole_error (h.offers _) hsole (hchildren.trans hc))
    rw [evaluateBlock_of_error hh hprepare]
    rfl
  | .ok false =>
    have hprepare : prepare (evaluate depth) head (value :: p.rest name body) c s = (.ok none, s) :=
      prepare_of_none (resolve_of_sole_refused (h.offers _) hsole (hchildren.trans hc))
    rw [evaluateBlock, hh, if_neg Bool.false_ne_true, Action.bind_of_ok hprepare]
    rfl
  | .ok true => exact byCause_evaluateBlock_of_accepted h hhead hname p value body depth hc

/-! ## Dry runs -/

/-- Validating a call validates its first argument, whatever its spelling. -/
theorem validate_call (h : HasCatalogue (s :: c.parents)) (hhead : Text.foldCase head = Text.foldCase b.name)
    (p : Spelling) (value : Token) (name : String) (body : Token) :
    (validate (s :: c.parents) (p.call head value name body)).mapError Error.kind =
      match acceptsChild (s :: c.parents) b.subject value with
      | .error e => .error e.kind
      | .ok true => (validate (s :: c.parents) value).mapError Error.kind
      | .ok false => .ok () := by
  have hh := isEmpty_of_foldCase hhead
  have hsole := b.sole_call p name body hhead value
  have hchildren := b.acceptsChildren_call p name body (s :: c.parents) value
  simp only [Spelling.call, validate, hh, Bool.false_eq_true, if_false]
  cases hc : acceptsChild (s :: c.parents) b.subject value with
  | error e =>
    rw [resolve_of_sole_error (h.offers _) hsole (hchildren.trans hc)]
    rfl
  | ok accepted =>
    cases accepted with
    | false =>
      rw [resolve_of_sole_refused (h.offers _) hsole (hchildren.trans hc)]
      rfl
    | true =>
      obtain ⟨f, hf, hresolve⟩ := resolve_of_sole (h.offers _) hsole (hchildren.trans hc)
      have hfirst : f.signature.quotes 0 = false := (hf.quotes_eq 0).trans (b.quotes_zero p)
      have hrest : validateArguments (s :: c.parents) f.signature 1 (p.rest name body) = .ok () := by
        obtain ⟨hname, hbody, hlambda⟩ := b.quotes_rest
        cases p with
        | apart => simp [Spelling.rest, validateArguments, validate, hf.quotes_eq, hname, hbody]
        | lambda => simp [Spelling.rest, validateArguments, hf.quotes_eq, hlambda]
      rw [hresolve]
      simp only [validateArguments, hfirst, Bool.false_eq_true, if_false, hrest]
      cases validate (s :: c.parents) value <;> rfl

end Call

/-! ## Both spellings mean the same -/

/-- What two calls come to is the same: equal values, failures of one kind, or both calls as they were. -/
inductive SameOutcome (call call' : Token) : Except Error Token → Except Error Token → Prop
  | value (v : Token) : SameOutcome call call' (.ok v) (.ok v)
  | failure {e e' : Error} (h : e.kind = e'.kind) : SameOutcome call call' (.error e) (.error e')
  | unevaluated : SameOutcome call call' (.ok call) (.ok call')

section Outcome

variable {call call' : Token} {r r' : Except Error Token × Scope} {v : Token} {s : Scope}

theorem eq_of_byCause (h : byCause r = (.ok v, s)) : r = (.ok v, s) := by
  obtain ⟨r, s'⟩ := r
  cases r with
  | ok a =>
    cases h
    rfl
  | error e => cases h

/-- Runs with the same value or cause have the same outcome. -/
theorem sameOutcome_of_byCause (h : byCause r = byCause r') : SameOutcome call call' r.1 r'.1 ∧ r.2 = r'.2 := by
  obtain ⟨r, s⟩ := r
  obtain ⟨r', s'⟩ := r'
  obtain ⟨hr, hs⟩ := Prod.mk.injEq .. ▸ h
  cases r with
  | ok v =>
    cases r' with
    | ok v' =>
      cases hr
      exact ⟨.value v, hs⟩
    | error e => cases hr
  | error e =>
    cases r' with
    | ok v => cases hr
    | error e' => exact ⟨.failure (Except.error.inj hr), hs⟩

/-- Validated calls are given back both or neither. -/
theorem sameOutcome_of_validated {x x' : Except Error Unit} (h : x.mapError Error.kind = x'.mapError Error.kind) :
    SameOutcome call call' (x.map fun _ => call) (x'.map fun _ => call') := by
  cases x with
  | ok =>
    cases x' with
    | ok => exact .unevaluated
    | error e => cases h
  | error e =>
    cases x' with
    | ok => cases h
    | error e' => exact .failure (Except.error.inj h)

end Outcome

section Agreement

variable {b : Binder} {head name : String} {c : Context} {s : Scope}

/-- In one scope, both spellings of a call have the same outcome and leave the same. -/
theorem sameOutcome_request (h : HasCatalogue (s :: c.parents)) (hhead : Text.foldCase head = Text.foldCase b.name)
    (hname : name ≠ "") (value body : Token) (depth : Nat) :
    SameOutcome (Spelling.apart.call head value name body) (Spelling.lambda.call head value name body)
        (Evaluator.request (evaluate depth) (Spelling.apart.call head value name body) c s).1
        (Evaluator.request (evaluate depth) (Spelling.lambda.call head value name body) c s).1 ∧
      (Evaluator.request (evaluate depth) (Spelling.apart.call head value name body) c s).2 =
        (Evaluator.request (evaluate depth) (Spelling.lambda.call head value name body) c s).2 := by
  cases hd : c.config.dryRun with
  | true =>
    rw [request_of_dryRun hd, request_of_dryRun hd]
    have hvalidate (p : Spelling) := validate_call h hhead p value name body
    exact ⟨sameOutcome_of_validated ((hvalidate .apart).trans (hvalidate .lambda).symm), rfl⟩
  | false =>
    rw [request_of_not_dryRun hd, request_of_not_dryRun hd]
    cases depth with
    | zero => exact ⟨.failure rfl, rfl⟩
    | succ depth =>
      have hcall (p : Spelling) := byCause_evaluateBlock h hhead hname p value body depth
      match hc : acceptsChild (s :: c.parents) b.subject value with
      | .error _ | .ok true =>
        simp only [hc] at hcall
        exact sameOutcome_of_byCause ((hcall .apart).trans (hcall .lambda).symm)
      | .ok false =>
        simp only [hc] at hcall
        have hapart := eq_of_byCause (hcall .apart)
        have hlambda := eq_of_byCause (hcall .lambda)
        show SameOutcome _ _ (evaluateBlock _ _ _ _ _).1 (evaluateBlock _ _ _ _ _).1 ∧
          (evaluateBlock _ _ _ _ _).2 = (evaluateBlock _ _ _ _ _).2
        rw [hapart, hlambda]
        exact ⟨.unevaluated, rfl⟩

end Agreement

/-- **Both spellings of a binder mean the same**: with any number of levels left, they give equal values, fail for the
same cause, or are left as they are, and the interpreter is the same afterwards. -/
theorem Interpreter.spellings_agree {i : Interpreter} (h : HasCatalogue i.chain) (b : Binder) {head name : String}
    (hhead : Text.foldCase head = Text.foldCase b.name) (hname : name ≠ "") (value body : Token) (depth : Nat) :
    let apart : Token := .block head [value, .string name, body]
    let lambda : Token := .block head [value, .block "" [.block name [], body]]
    SameOutcome apart lambda (i.run (Evaluator.request (RuleExpr.evaluate depth) apart)).1
        (i.run (Evaluator.request (RuleExpr.evaluate depth) lambda)).1 ∧
      (i.run (Evaluator.request (RuleExpr.evaluate depth) apart)).2 =
        (i.run (Evaluator.request (RuleExpr.evaluate depth) lambda)).2 := by
  obtain ⟨houtcome, hscope⟩ := sameOutcome_request (c := ⟨i.config, i.parents⟩) h hhead hname value body depth
  exact ⟨houtcome, congrArg (fun scope => { i with scope }) hscope⟩

/-- The name of an operation is bound like any other. -/
theorem Interpreter.spellings_agree_plus :
    let apart : Token := .block "Map" [.list [.decimal 1, .decimal 2], .string "+", .block "." [.string "+"]]
    let lambda : Token :=
      .block "Map" [.list [.decimal 1, .decimal 2], .block "" [.block "+" [], .block "." [.string "+"]]]
    HasCatalogue (root {}).chain ∧ Text.foldCase "Map" = Text.foldCase (Binder.iterator .map).name ∧
      SameOutcome apart lambda ((root {}).evaluate apart).1 ((root {}).evaluate lambda).1 ∧
      ((root {}).evaluate apart).2 = ((root {}).evaluate lambda).2 := by
  have hhead : Text.foldCase "Map" = Text.foldCase (Binder.iterator .map).name := by decide +kernel
  have hcatalogue : HasCatalogue (root {}).chain := HasCatalogue.root {} (.map [])
  exact ⟨hcatalogue, hhead, spellings_agree hcatalogue _ hhead (by decide) _ _ 256⟩

example : ((Interpreter.root {}).evaluate (.block "map" [.list [.decimal 1, .decimal 2],
    .block "" [.block "+" [], .block "." [.string "+"]]])).1.toOption = some (.list [.decimal 1, .decimal 2]) := by
  cbv

end RuleExpr
