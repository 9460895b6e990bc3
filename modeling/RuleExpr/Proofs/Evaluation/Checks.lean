import RuleExpr.Proofs.Builtin.Checks
import RuleExpr.Proofs.Evaluation.Iteration

/-!
# Checks of arguments by the built-in functions

A built-in has demands on its arguments (`Builtin.demands`): a test of order one for each kind that has an order, any
other built-in a single one. The signatures of the catalogue cover them (`meetsDemands_of_mem_catalogue`).

A built-in whose demand is met passes its checks, so what fails as a check does is not about the kinds or the number
of its arguments (`Builtin.Blame`): it comes from an evaluation that the body asks for (`Evaluator.Asked`), or is about
what such an evaluation gave, about the elements of a list, or about what is visible under a name.

- **A built-in passes all its checks with arguments that its signature admits and accepts** (`Function.checks_pass`).
-/

namespace RuleExpr

/-! ## What is asked for -/

/-- The token is one of the arguments, or a child of one. -/
def Token.PartOf (args : List Token) (t : Token) : Prop :=
  t ∈ args ∨ ∃ head children, .block head children ∈ args ∧ t ∈ children

/-- The outcome is that of an evaluation that a body may ask for: of an argument or of a child of one, in the scope of
the call or in a new one inside it. -/
def Evaluator.Asked (ev : Evaluator) (c : Context) (args : List Token) (r : Except Error Token) : Prop :=
  ∃ t c' s', t.PartOf args ∧ (c' = c ∨ ∃ s, c' = { c with parents := s :: c.parents }) ∧ (ev t c' s').1 = r

section Asked

variable {ev : Evaluator} {c : Context} {s : Scope} {args more : List Token} {t : Token}

theorem Token.PartOf.mono (h : t.PartOf args) (hsub : args ⊆ more) : t.PartOf more :=
  h.imp (hsub ·) fun ⟨head, children, hb, ht⟩ => ⟨head, children, hsub hb, ht⟩

theorem Evaluator.Asked.fails {r : Except Error Token} (h : ev.Asked c args r) :
    Fails (fun e => ev.Asked c args (.error e)) r := fun e he => by
  subst he
  exact h

theorem Fails.asked (ht : t ∈ args) : Fails (fun e => ev.Asked c args (.error e)) (ev t c s).1 :=
  fun _ he => ⟨t, c, s, .inl ht, .inl rfl, he⟩

/-- A body may be evaluated with a value for a name. -/
theorem Evaluator.Asked.valueAt (ht : t.PartOf args) (name : String) (value : Token) :
    ev.Asked c args (ev.valueAt c s name t value) := by
  rw [Evaluator.valueAt, withValue_eq]
  exact ⟨t, _, _, ht, .inr ⟨s, rfl⟩, rfl⟩

end Asked

/-! ## What is needed -/

/-- Access to bindings needs a number of arguments. -/
def BindingOperation.demand : BindingOperation → Demand
  | read => { counts := ⟨0, true⟩ }
  | write => { counts := ⟨2, true⟩ }
  | readOr => { counts := ⟨2, false⟩ }

/-- What a control function needs. -/
def Control.demand : Control → Demand
  | noop | panic => { counts := ⟨0, true⟩ }
  | toString | not | identity | inScope => { counts := ⟨1, false⟩ }
  | recover | bindLambda => { counts := ⟨2, false⟩ }
  | bind => { counts := ⟨3, false⟩ }
  | instantiate => { counts := ⟨1, true⟩, first := Kind.string }
  | setTemplate => { counts := ⟨2, false⟩, first := Kind.string }

/-- An iterator needs a list, and more arguments. -/
def Iterator.demand (_ : Iterator) : Demand := { counts := ⟨2, true⟩, first := Kind.list }

/-- The kind that the values of the body of an iterator need to be of. -/
def Iterator.valueKind : Iterator → Kind
  | map | anyOf | every => Kind.any
  | sum | sortByNumber => Kind.decimal
  | sortByString => Kind.string

namespace Builtin

/-- What a built-in needs its arguments to be, in each of the ways in which it takes them. -/
def demands : Builtin → List Demand
  | arithmetic op => [op.demand]
  | comparison op => op.demands
  | connective _ | keyValues => [{ counts := ⟨0, true⟩ }]
  | list op => [op.demand]
  | iterator op => [op.demand]
  | text op => [op.demand]
  | time op => [op.demand]
  | binding op => [op.demand]
  | control op => [op.demand]

/-- Whether the body asks for evaluations. -/
def evaluates : Builtin → Bool
  | connective _ | iterator _ | keyValues | binding .readOr => true
  | control op => op ∈ [.recover, .inScope, .bind, .bindLambda]
  | _ => false

/-- Why a built-in whose demand is met fails as a check does, other than because of its arguments. -/
inductive Blame (ev : Evaluator) (c : Context) (s : Scope) (args : List Token) : Builtin → Error → Prop
  | evaluation {op : Builtin} {e : Error} (hop : op.evaluates = true) (hasked : ev.Asked c args (.error e)) :
    Blame ev c s args op e
  | value {op : Iterator} {v : Token} (hasked : ev.Asked c args (.ok v)) (hkind : op.valueKind.accepts v.kind = false) :
    Blame ev c s args (.iterator op) (Arguments.mismatch (Binder.iterator op).name op.valueKind v)
  | elements {op : ListOperation} {e : Error} (h : op.Blame args e) : Blame ev c s args (.list op) e
  | read {e : Error} (h : readPath (s :: c.parents) (args.map Token.text) = .error e) :
    Blame ev c s args (.binding .read) e
  | write {e : Error}
    (h : (s.writePath c.parents (args.dropLast.map Token.text) (args.getLastD .null)).1 = .error e) :
    Blame ev c s args (.binding .write) e
  | template {e : Error} {name : String} {more : List Token} (hargs : args = .string name :: more)
    (h : resolveTemplate (s :: c.parents) name more >>= (·.instantiate more) = .error e) :
    Blame ev c s args (.control .instantiate) e

end Builtin

/-- Whether the body needs nothing but what the signature accepts. -/
def Function.meetsDemands (f : Function) : Bool :=
  match f.body with
  | .builtin op => op.demands.any (·.covers f.signature)
  | .host _ => false

theorem meetsDemands_of_mem_catalogue : ∀ f ∈ catalogue, f.meetsDemands = true := by
  decide +kernel

/-! ## How the bodies fail that evaluate -/

section Evaluating

variable {ev : Evaluator} {c : Context} {s : Scope} {args ts : List Token} {function : String} {P : Error → Prop}

theorem Evaluator.fails_all (h : ∀ t ∈ ts, ∀ s, Fails P (ev t c s).1) : Fails P (ev.all ts c s).1 := by
  induction ts generalizing s with
  | nil => exact .ok []
  | cons t ts ih =>
    obtain ⟨ht, hts⟩ := List.forall_mem_cons.1 h
    exact Action.fails_bind (ht s) fun _ _ _ => Action.fails_bind (ih hts) fun _ _ _ => .ok _

namespace Connective

theorem fails_allHold (h : ∀ t ∈ ts, ∀ s, Fails P (ev t c s).1) : Fails P (allHold ev ts c s).1 := by
  induction ts generalizing s with
  | nil => exact .ok true
  | cons t ts ih =>
    obtain ⟨ht, hts⟩ := List.forall_mem_cons.1 h
    refine Action.fails_bind (ht s) fun v s' _ => ?_
    split
    · exact ih hts
    · exact .ok false

theorem fails_anyHolds (h : ∀ t ∈ ts, ∀ s, Fails P (ev t c s).1) : Fails P (anyHolds ev ts c s).1 := by
  induction ts generalizing s with
  | nil => exact .ok false
  | cons t ts ih =>
    obtain ⟨ht, hts⟩ := List.forall_mem_cons.1 h
    refine Action.fails_bind (ht s) fun v s' _ => ?_
    split
    · exact .ok true
    · exact ih hts

/-- A connective fails as the evaluation of an argument does. -/
theorem fails_run (op : Connective) : Fails (fun e => ev.Asked c args (.error e)) (op.run ev args c s).1 := by
  have hargs : ∀ t ∈ args, ∀ s, Fails (fun e => ev.Asked c args (.error e)) (ev t c s).1 := fun t ht s => .asked ht
  cases op with
  | all => exact Action.fails_bind (fails_allHold hargs) fun _ _ _ => .ok _
  | any => exact Action.fails_bind (fails_anyHolds hargs) fun _ _ _ => .ok _

end Connective

theorem passes_lambda {t : Token} : Passes (lambda function t) := by
  unfold lambda
  split
  · split
    · exact .error rfl
    · exact .ok _
  · exact .error rfl

namespace Iterator

variable {items : List Token} {name : String} {body : Token}

/-- The body of a loop is there. -/
theorem passes_loop (op : Iterator) (h : op.demand.Met args) : Passes (loop function args) := by
  obtain ⟨a, b, more, rfl⟩ : ∃ a b more, args = a :: b :: more := by
    match args, of_decide_eq_true h.counts with
    | a :: b :: more, _ => exact ⟨a, b, more, rfl⟩
  obtain ⟨items, rfl⟩ := Token.list_of_accepts (h.kinds 0 a rfl)
  refine .bind (.ok items) fun items _ => ?_
  cases more with
  | nil => exact .bind passes_lambda fun _ _ => .ok _
  | cons body more => exact .ok _

theorem loop_body (h : loop function args = .ok (items, name, body)) : body.PartOf args := by
  obtain ⟨items', -, h⟩ := bind_eq_ok h
  split at h
  · cases h
    exact .inl (List.mem_cons_of_mem _ (List.mem_cons_of_mem _ List.mem_cons_self))
  · obtain ⟨⟨name, body⟩, hl, h⟩ := bind_eq_ok h
    cases h
    obtain ⟨head, children, rfl, hbody⟩ := mem_of_lambda _ hl
    exact .inr ⟨head, children, List.mem_cons_of_mem _ List.mem_cons_self, hbody⟩
  · cases h

section Outcome

variable {value : Token → Except Error Token}

theorem fails_decimalAt (hv : ∀ t, Fails P (value t))
    (hk : ∀ t v, value t = .ok v → Kind.decimal.accepts v.kind = false → P (Arguments.mismatch "sum" Kind.decimal v))
    (t : Token) : Fails P (decimalAt value t) := by
  refine .bind (hv t) fun v he => ?_
  cases v with
  | decimal d => exact .ok d
  | _ => exact .error (hk t _ he (by simp only [Token.kind]; decide))

theorem fails_keyedItems {kind : Kind} (hv : ∀ t, Fails P (value t))
    (hk : ∀ t v, value t = .ok v → kind.accepts v.kind = false → P (Arguments.mismatch function kind v))
    (items : List Token) : Fails P (keyedItems value function kind items) := by
  refine .mapM fun t _ => .map (.bind (hv t) fun key he => ?_)
  split
  · exact .ok key
  · next hkind => exact .error (hk t key he (Bool.not_eq_true _ ▸ hkind))

/-- An iterator fails as a value of its body does, or because of the kind of one. -/
theorem fails_outcome (op : Iterator) (hv : ∀ t, Fails P (value t))
    (hk : ∀ t v, value t = .ok v → op.valueKind.accepts v.kind = false →
      P (Arguments.mismatch (Binder.iterator op).name op.valueKind v)) :
    Fails P (op.outcome value items) := by
  cases op with
  | map => exact .map (.mapM fun t _ => hv t)
  | anyOf => exact .map (.anyM fun t _ => .map (hv t))
  | every => exact .map (.allM fun t _ => .map (hv t))
  | sum => exact .map (.mapM fun t _ => fails_decimalAt hv hk t)
  | sortByNumber => exact .map (fails_keyedItems hv hk items)
  | sortByString => exact .map (fails_keyedItems hv hk items)

end Outcome

theorem fails_run (op : Iterator) (h : op.demand.Met args) :
    Fails (fun e => e.isCheck = true → Builtin.Blame ev c s args (.iterator op) e) (op.run ev args c s).1 := by
  rw [op.run_eq args]
  refine .bind ((op.passes_loop h).checked _) fun (items, name, body) hloop => ?_
  have hasked (t : Token) : ev.Asked c args (ev.valueAt c s name body t) := .valueAt (loop_body hloop) name t
  refine fails_outcome op (fun t e he _ => ?_) fun t v he hkind _ => ?_
  · exact .evaluation rfl (he ▸ hasked t)
  · exact .value (he ▸ hasked t) hkind

end Iterator

namespace KeyValues

/-- What keeps it from being told whether an argument is a pair is no check. -/
theorem passes_pair? {chain : List Scope} {t : Token} : Passes (pair? chain t) := by
  unfold pair?
  split
  · split
    · exact .ok _
    · split
      · exact .ok _
      · exact .ok _
      · next e _ =>
        cases ha : e.aborts with
        | true => exact .error (e.isCheck_of_aborts ha)
        | false => exact .ok _
  · exact .ok _

/-- A key without a value is no failure of a check. -/
theorem fails_addEntries (hkey : ∀ key, P (.invalidArgument (.keyWithoutValue key)))
    (hpairs : ∀ chain t, Fails P (pair? chain t)) :
    ∀ {ts : List Token} {m : Entries Token} {s : Scope},
      (∀ t : Token, t.PartOf ts → ∀ s, Fails P (ev t c s).1) → Fails P (addEntries ev m ts c s).1
  | [], m, s, _ => .ok m
  | arg :: ts, m, s, h => by
    have harg := h arg (.inl List.mem_cons_self)
    have hrest {us : List Token} (hus : us ⊆ arg :: ts) (t : Token) (ht : t.PartOf us) := h t (ht.mono hus)
    rw [addEntries.eq_def]
    refine Action.fails_bind (.ok _) fun chain s' _ => ?_
    refine Action.fails_ofExcept (hpairs chain arg) fun pair hpair => ?_
    cases pair with
    | some pair =>
      obtain ⟨key, children⟩ := pair
      refine Action.fails_bind (Evaluator.fails_all fun t ht => ?_) fun _ _ _ => ?_
      · exact h t (.inr ⟨key, children, List.mem_cons.2 (.inl (eq_of_pair? hpair).symm), ht⟩)
      · exact fails_addEntries hkey hpairs (hrest (List.subset_cons_self arg ts))
    | none =>
      refine Action.fails_bind (harg s') fun key s₁ _ => ?_
      cases ts with
      | nil => exact .error (hkey _)
      | cons value ts =>
        refine Action.fails_bind (h value (.inl (List.mem_cons_of_mem _ List.mem_cons_self)) s₁) fun v s₂ _ => ?_
        exact fails_addEntries hkey hpairs (hrest fun t ht => List.mem_cons_of_mem _ (List.mem_cons_of_mem _ ht))

theorem fails_run : Fails (fun e => e.isCheck = true → ev.Asked c args (.error e)) (run ev args c s).1 := by
  refine Action.fails_bind (fails_addEntries (fun key hkey => ?_) (fun chain t => passes_pair?.checked _)
    fun t ht s' e he _ => ?_) fun _ _ _ => .ok _
  · cases hkey
  · exact ⟨t, c, s', ht, .inl rfl, he⟩

end KeyValues

theorem Arguments.atLeast_eq_ok {least : Nat} (h : least ≤ args.length) : atLeast function least args = .ok () := by
  rw [atLeast, if_neg (Nat.not_lt.2 h)]

namespace BindingOperation

theorem fails_putAt (h : ({ counts := ⟨2, true⟩ } : Demand).Met args) : Fails (fun e =>
    (s.writePath c.parents (args.dropLast.map Token.text) (args.getLastD .null)).1 = .error e) (putAt args c s).1 := by
  rw [putAt, Arguments.atLeast_eq_ok (of_decide_eq_true h.counts)]
  exact Action.fails_ofExcept (.ok ()) fun _ _ => Action.fails_bind (fun _ he => he) fun _ _ _ => .ok _

/-- What is given is the default, or else the outcome of the path expression. -/
theorem asked_valueOr (h : ({ counts := ⟨2, false⟩ } : Demand).Met args) :
    (valueOr ev args c s).1 = .ok (args.headD .null) ∨ ev.Asked c args (valueOr ev args c s).1 := by
  obtain ⟨default, path, rfl, -, -⟩ := h.two rfl
  have hpath : path ∈ [default, path] := List.mem_cons_of_mem default (List.mem_singleton_self path)
  rw [valueOr, Action.bind_of_ok (a := (default, path)) rfl]
  dsimp only
  match hr : ev path c s with
  | (.ok v, s') =>
    rw [Action.bind_of_ok (Action.attempt_of_ok hr)]
    exact .inr ⟨path, c, s, .inl hpath, .inl rfl, congrArg Prod.fst hr⟩
  | (.error e, s') =>
    cases ha : e.aborts with
    | true =>
      rw [Action.bind_of_error (Action.attempt_of_aborts hr ha)]
      exact .inr ⟨path, c, s, .inl hpath, .inl rfl, congrArg Prod.fst hr⟩
    | false =>
      rw [Action.bind_of_ok (Action.attempt_of_error hr ha)]
      dsimp only
      split
      · exact .inl rfl
      · exact .inr ⟨path, c, s, .inl hpath, .inl rfl, congrArg Prod.fst hr⟩

theorem fails_run (op : BindingOperation) (h : op.demand.Met args) :
    Fails (Builtin.Blame ev c s args (.binding op)) (op.run ev args c s).1 := by
  cases op with
  | read => exact fun e he => .read he
  | write => exact (fails_putAt h).mono fun e he => .write he
  | readOr =>
    intro e he
    rcases asked_valueOr h with hok | hasked
    · cases hok.symm.trans he
    · exact .evaluation rfl (hasked.fails e he)

end BindingOperation

namespace Control

/-- What is given is the outcome of the second argument, or else that of the first. -/
theorem asked_evaluateOr (h : ({ counts := ⟨2, false⟩ } : Demand).Met args) :
    ev.Asked c args (evaluateOr ev args c s).1 := by
  obtain ⟨fallback, attempted, rfl, -, -⟩ := h.two rfl
  have hattempted : attempted ∈ [fallback, attempted] := List.mem_cons_of_mem _ (List.mem_singleton_self _)
  rw [evaluateOr, Action.bind_of_ok (a := (fallback, attempted)) rfl]
  dsimp only
  match hr : ev attempted c s with
  | (.ok v, s') =>
    rw [Action.bind_of_ok (Action.attempt_of_ok hr)]
    exact ⟨attempted, c, s, .inl hattempted, .inl rfl, congrArg Prod.fst hr⟩
  | (.error e, s') =>
    cases ha : e.aborts with
    | true =>
      rw [Action.bind_of_error (Action.attempt_of_aborts hr ha)]
      exact ⟨attempted, c, s, .inl hattempted, .inl rfl, congrArg Prod.fst hr⟩
    | false =>
      rw [Action.bind_of_ok (Action.attempt_of_error hr ha)]
      exact ⟨fallback, c, s', .inl List.mem_cons_self, .inl rfl, rfl⟩

theorem asked_evaluateInScope (h : ({ counts := ⟨1, false⟩ } : Demand).Met args) :
    ev.Asked c args (evaluateInScope ev args c s).1 := by
  obtain ⟨body, rfl, -⟩ := h.one rfl
  exact ⟨body, { c with parents := s :: c.parents }, {}, .inl List.mem_cons_self, .inr ⟨s, rfl⟩, rfl⟩

theorem asked_evaluateWith (h : ({ counts := ⟨3, false⟩ } : Demand).Met args) :
    ev.Asked c args (evaluateWith ev args c s).1 := by
  obtain ⟨value, name, body, rfl, -, -, -⟩ := h.three rfl
  have hbody : body ∈ [value, name, body] := by simp only [List.mem_cons, true_or, or_true]
  exact .valueAt (.inl hbody) name.text value

/-- The form `((name) body)` is checked before the body is evaluated. -/
theorem asked_evaluateLambda (h : ({ counts := ⟨2, false⟩ } : Demand).Met args) :
    (∃ e, (evaluateLambda ev args c s).1 = .error e ∧ e.isCheck = false) ∨
      ev.Asked c args (evaluateLambda ev args c s).1 := by
  obtain ⟨value, l, rfl, -, -⟩ := h.two rfl
  rw [evaluateLambda, Action.bind_of_ok (a := (value, l)) rfl]
  dsimp only
  cases hl : lambda "do" l with
  | error e =>
    rw [Action.bind_of_error (e := e) rfl]
    exact .inl ⟨e, rfl, passes_lambda e hl⟩
  | ok p =>
    obtain ⟨head, children, rfl, hbody⟩ := mem_of_lambda p hl
    have hchild := List.mem_cons_of_mem value (List.mem_singleton_self (Token.block head children))
    rw [Action.bind_of_ok (a := p) rfl]
    exact .inr (.valueAt (.inr ⟨head, children, hchild, hbody⟩) p.1 value)

theorem fails_instantiated (h : ({ counts := ⟨1, true⟩, first := Kind.string } : Demand).Met args) :
    Fails (Builtin.Blame ev c s args (.control .instantiate)) (instantiated args c s).1 := by
  obtain ⟨a, more, rfl, ha, -⟩ := h.cons rfl
  obtain ⟨name, rfl⟩ := Token.string_of_accepts ha
  refine Action.fails_ofExcept (.ok ()) fun _ _ => Action.fails_ofExcept (.ok name) fun _ he => ?_
  cases he
  show Fails _ ((Action.ofExcept (resolveTemplate (s :: c.parents) name more) >>= fun template =>
    Action.ofExcept (template.instantiate more)) c s).1
  refine Action.fails_ofExcept (fun e he => .template rfl (by rw [he]; rfl)) fun template ht e he => ?_
  exact .template rfl (by rw [ht]; exact he)

theorem passes_putTemplate (h : ({ counts := ⟨2, false⟩, first := Kind.string } : Demand).Met args) :
    Passes (putTemplate args c s).1 := by
  obtain ⟨a, body, rfl, ha, -⟩ := h.two rfl
  obtain ⟨text, rfl⟩ := Token.string_of_accepts ha
  refine Action.fails_ofExcept (.ok (Token.string text, body)) fun _ he => ?_
  cases he
  refine Action.fails_ofExcept (.ok text) fun _ he => ?_
  cases he
  refine Action.fails_ofExcept ?_ fun signature _ => Action.fails_bind (.ok ()) fun _ _ _ => .ok _
  unfold Signature.parse
  split
  · exact .ok _
  · exact .error rfl

theorem fails_run (op : Control) (h : op.demand.Met args) :
    Fails (fun e => e.isCheck = true → Builtin.Blame ev c s args (.control op) e) (op.run ev args c s).1 := by
  cases op with
  | noop => exact .ok _
  | toString =>
    obtain ⟨a, rfl, -⟩ := h.one rfl
    exact .ok _
  | not =>
    obtain ⟨a, rfl, -⟩ := h.one rfl
    exact .ok _
  | identity =>
    obtain ⟨a, rfl, -⟩ := h.one rfl
    exact .ok _
  | panic => exact Passes.checked (.error rfl) _
  | «recover» => exact (asked_evaluateOr h).fails.mono fun e he _ => .evaluation rfl he
  | inScope => exact (asked_evaluateInScope h).fails.mono fun e he _ => .evaluation rfl he
  | bind => exact (asked_evaluateWith h).fails.mono fun e he _ => .evaluation rfl he
  | bindLambda =>
    intro e he hcheck
    rcases asked_evaluateLambda h with ⟨e', he', hpass⟩ | hasked
    · cases he'.symm.trans he
      exact absurd (hpass.symm.trans hcheck) Bool.false_ne_true
    · exact .evaluation rfl (hasked.fails e he)
  | instantiate => exact (fails_instantiated h).mono fun e he _ => he
  | setTemplate => exact (passes_putTemplate h).checked _

end Control

/-! ## Every built-in -/

/-- **A built-in whose demand is met fails as a check does for a reason only that is not in its arguments.** -/
theorem Builtin.fails_run (op : Builtin) {d : Demand} (hd : d ∈ op.demands) (h : d.Met args) :
    Fails (fun e => e.isCheck = true → op.Blame ev c s args e) (op.run ev args c s).1 := by
  cases op with
  | comparison op => exact (op.passes_run hd h).checked _
  | connective op => exact op.fails_run.mono fun e he _ => .evaluation rfl he
  | keyValues => exact KeyValues.fails_run.mono fun e he hcheck => .evaluation rfl (he hcheck)
  | arithmetic op =>
    obtain rfl := List.mem_singleton.1 hd
    exact Action.fails_bind (.ok _) fun config _ _ => (op.passes_run config.divisionPrecision h).checked _
  | list op =>
    obtain rfl := List.mem_singleton.1 hd
    exact (op.fails_run h).mono fun e he hcheck => .elements (he hcheck)
  | iterator op =>
    obtain rfl := List.mem_singleton.1 hd
    exact op.fails_run h
  | text op =>
    obtain rfl := List.mem_singleton.1 hd
    exact (op.passes_run h).checked _
  | time op =>
    obtain rfl := List.mem_singleton.1 hd
    exact (op.passes_run h).checked _
  | binding op =>
    obtain rfl := List.mem_singleton.1 hd
    exact (op.fails_run h).mono fun e he _ => he
  | control op =>
    obtain rfl := List.mem_singleton.1 hd
    exact op.fails_run h

end Evaluating

/-- Arguments that a signature of the catalogue admits and accepts meet a demand of the body. -/
theorem Function.exists_met {f : Function} {op : Builtin} {args : List Token} (hf : f ∈ catalogue)
    (hop : f.body = .builtin op) (ha : f.signature.admits args.length = true)
    (hv : acceptsValues f.signature args = true) : ∃ d ∈ op.demands, d.Met args := by
  have hm := meetsDemands_of_mem_catalogue f hf
  rw [meetsDemands, hop] at hm
  obtain ⟨d, hd, hc⟩ := List.any_eq_true.1 hm
  exact ⟨d, hd, Demand.met_of_covers hc ha hv⟩

/-- **A built-in passes all its checks with arguments that its signature admits and accepts.** The arguments are as many
as the body reads, of the kinds that it reads, and comparable where it compares them. It does not fail as a check does,
unless an evaluation that it asks for does so, or what this gives, an element of a list, or something that is visible
under a name is to blame. -/
theorem Function.checks_pass {f : Function} {op : Builtin} {args : List Token} (hf : f ∈ catalogue)
    (hop : f.body = .builtin op) (ha : f.signature.admits args.length = true)
    (hv : acceptsValues f.signature args = true) :
    (∃ d ∈ op.demands, d.Met args) ∧ ∀ ev c s e,
      (f.body.run ev args c s).1 = .error e → e.isCheck = true → op.Blame ev c s args e := by
  obtain ⟨d, hd, hmet⟩ := exists_met hf hop ha hv
  refine ⟨⟨d, hd, hmet⟩, fun ev c s e he hcheck => ?_⟩
  rw [hop] at he
  exact op.fails_run hd hmet e he hcheck

/-- The least of decimals may be asked for a single one, though the signature lists two. -/
def Function.leastOfDecimals : Function :=
  ⟨⟨"min", [Kind.decimal, Kind.decimal], true, Kind.decimal, "Smallest of the arguments", "(min 3 1 2)"⟩,
    .builtin (.list .least)⟩

theorem Function.checks_pass_single :
    leastOfDecimals ∈ catalogue ∧ leastOfDecimals.signature.admits [Token.decimal 3].length = true ∧
      acceptsValues leastOfDecimals.signature [.decimal 3] = true ∧
      (∃ d ∈ (Builtin.list .least).demands, d.Met [.decimal 3]) ∧ ∀ ev c s e,
        (leastOfDecimals.body.run ev [.decimal 3] c s).1 = .error e → e.isCheck = true →
          Builtin.Blame ev c s [.decimal 3] (.list .least) e := by
  have hf : leastOfDecimals ∈ catalogue := by
    simp only [catalogue, List.mem_append]
    have hmem : leastOfDecimals ∈ ListOperation.catalogue := List.mem_of_getElem? (i := 14) rfl
    simp only [hmem, true_or, or_true]
  exact ⟨hf, rfl, by decide, checks_pass hf rfl rfl (by decide)⟩

end RuleExpr
