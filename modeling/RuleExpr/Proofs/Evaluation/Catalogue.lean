import RuleExpr.Proofs.Builtin.Quoting
import RuleExpr.Proofs.Evaluation.LookAhead

/-!
# Calls with the catalogue visible

Where the catalogue is visible and nothing else (`HasCatalogue`), or nothing else under the name that is called
(`Offers`), a built-in is among the functions to choose from for its name and arguments (`Offers.mem_admitted`). So if
it accepts the children of a block then some function is resolved (`Offers.exists_resolve`), and if it accepts their values
then whatever is run accepts them (`prepare_of_values`). Which function that is follows from the declarations of the
catalogue (`Function.declares`). The only one to choose from is run with the values of its arguments
(`evaluateBlock_of_sole`), or if it takes any trees with the arguments themselves (`evaluateBlock_of_any`).
-/

namespace RuleExpr

/-- The visible functions are those of the catalogue. -/
structure HasCatalogue (chain : List Scope) : Prop where
  builtins : OnlyBuiltins chain
  complete : ∀ f ∈ catalogue, ∃ s ∈ chain, f ∈ s.functions

/-- The functions that are visible under a name are those that the catalogue has under it. -/
structure Offers (chain : List Scope) (head : String) : Prop where
  builtins : ∀ f ∈ functionsNamed chain (Text.foldCase head), f ∈ catalogue
  complete : ∀ f ∈ catalogue, f.signature.key = Text.foldCase head → f ∈ functionsNamed chain (Text.foldCase head)

/-- Whether the function is the built-in with a declaration, whatever its documentation. -/
def Function.declares (f : Function) (signature : Signature) (op : Builtin) : Bool :=
  f.signature.same signature &&
    match f.body with
    | .builtin b => b == op
    | .host _ => false

/-- What a declaration says of the function. -/
structure Function.Declared (f : Function) (signature : Signature) (op : Builtin) : Prop where
  key : f.signature.key = signature.key
  parameters : f.signature.parameters = signature.parameters
  variadic : f.signature.variadic = signature.variadic
  returns : f.signature.returns = signature.returns
  body : f.body = .builtin op

theorem Function.declared_of_declares {f : Function} {signature : Signature} {op : Builtin}
    (h : f.declares signature op = true) : f.Declared signature op := by
  obtain ⟨hs, hb⟩ := Bool.and_eq_true_iff.1 h
  simp only [Signature.same, Bool.and_eq_true, beq_iff_eq] at hs
  obtain ⟨⟨⟨hkey, hparameters⟩, hvariadic⟩, hreturns⟩ := hs
  refine ⟨hkey, hparameters, hvariadic, hreturns, ?_⟩
  split at hb
  · next b he => rw [he, eq_of_beq hb]
  · cases hb

namespace Function.Declared

variable {f : Function} {signature : Signature} {op : Builtin}

/-- The declaration decides what arguments the function takes. -/
theorem parameterKind_eq (h : f.Declared signature op) (i : Nat) :
    f.signature.parameterKind i = signature.parameterKind i := by
  rw [Signature.parameterKind, Signature.parameterKind, h.parameters]

theorem quotes_eq (h : f.Declared signature op) (i : Nat) : f.signature.quotes i = signature.quotes i := by
  rw [Signature.quotes, Signature.quotes, h.parameterKind_eq]

theorem evaluatesAll_eq (h : f.Declared signature op) : f.signature.evaluatesAll = signature.evaluatesAll := by
  rw [Signature.evaluatesAll, Signature.evaluatesAll, h.parameters]

theorem admits_eq (h : f.Declared signature op) (count : Nat) :
    f.signature.admits count = signature.admits count := by
  rw [Signature.admits, Signature.admits, h.parameters, h.variadic]

theorem acceptsChildren_eq (h : f.Declared signature op) (chain : List Scope) (children : List Token) :
    acceptsChildren chain f.signature children = acceptsChildren chain signature children := by
  simp only [acceptsChildren, h.parameterKind_eq]

theorem acceptsValues_eq (h : f.Declared signature op) (args : List Token) :
    acceptsValues f.signature args = acceptsValues signature args := by
  simp only [acceptsValues, h.parameterKind_eq, h.quotes_eq]

end Function.Declared

/-- If a test finds one function in the catalogue, then what is told of that one holds of whatever passes the test. -/
theorem Function.eq_of_filter {β : Type} {p : Function → Bool} {g : Function → β} {b : β}
    (h : (catalogue.filter p).map g = [b]) :
    (∃ f ∈ catalogue, p f = true) ∧ ∀ f ∈ catalogue, p f = true → g f = b := by
  constructor
  · obtain ⟨f, hf, -⟩ := List.mem_map.1 (h ▸ List.mem_singleton_self b)
    exact ⟨f, List.mem_filter.1 hf⟩
  · intro f hf hp
    have hg := List.mem_map_of_mem (f := g) (List.mem_filter.2 ⟨hf, hp⟩)
    rw [h] at hg
    exact List.mem_singleton.1 hg

/-- For its name and a number of arguments, the catalogue has the function with a declaration and no other. -/
structure Function.Sole (head : String) (count : Nat) (signature : Signature) (op : Builtin) : Prop where
  exists_mem : ∃ f ∈ catalogue, f.signature.key = Text.foldCase head ∧ f.signature.admits count = true
  declares : ∀ f ∈ catalogue, f.signature.key = Text.foldCase head → f.signature.admits count = true →
    f.declares signature op = true

/-- It is enough to look at the functions with that name and number of arguments. -/
theorem Function.sole_of_filter {head : String} {count : Nat} {signature : Signature} {op : Builtin}
    (h : (catalogue.filter fun f => f.signature.key == Text.foldCase head && f.signature.admits count).map
      (Function.declares · signature op) = [true]) : Function.Sole head count signature op := by
  obtain ⟨hexists, hdeclares⟩ := Function.eq_of_filter h
  simp only [Bool.and_eq_true, beq_iff_eq] at hexists hdeclares
  exact ⟨hexists, fun f hf hkey hadmits => hdeclares f hf ⟨hkey, hadmits⟩⟩

/-- The only function with its name is so for every number of arguments that it admits. -/
theorem Function.sole_of_key {head : String} {count : Nat} {signature : Signature} {op : Builtin}
    (h : (catalogue.filter fun f => f.signature.key == Text.foldCase head).map (Function.declares · signature op) =
      [true]) (hadmits : signature.admits count = true) : Function.Sole head count signature op := by
  obtain ⟨⟨f, hf, hkey⟩, hdeclares⟩ := Function.eq_of_filter h
  refine ⟨⟨f, hf, eq_of_beq hkey, ?_⟩, fun f hf hkey _ => hdeclares f hf (beq_iff_eq.2 hkey)⟩
  rw [(Function.declared_of_declares (hdeclares f hf hkey)).admits_eq, hadmits]

/-- For its name and a number of arguments, the catalogue has the function with a declaration, and no other one takes a
value of a kind first. -/
structure Function.SoleFirst (head : String) (count : Nat) (first : Kind) (signature : Signature) (op : Builtin) :
    Prop where
  exists_mem : ∃ f ∈ catalogue, f.signature.key = Text.foldCase head ∧ f.signature.admits count = true ∧
    f.Declared signature op
  declared : ∀ f ∈ catalogue, f.signature.key = Text.foldCase head → f.signature.admits count = true →
    (f.signature.parameterKind 0).accepts first = true → f.Declared signature op

theorem Function.soleFirst_of_filter {head : String} {count : Nat} {first : Kind} {signature : Signature}
    {op : Builtin} (h : (catalogue.filter fun f => f.signature.key == Text.foldCase head &&
      f.signature.admits count && (f.signature.parameterKind 0).accepts first).map (Function.declares · signature op) =
        [true]) : Function.SoleFirst head count first signature op := by
  obtain ⟨⟨g, hg, hfits⟩, hdeclares⟩ := Function.eq_of_filter h
  have hdeclared := Function.declared_of_declares (hdeclares g hg hfits)
  simp only [Bool.and_eq_true, beq_iff_eq] at hfits hdeclares
  exact ⟨⟨g, hg, hfits.1.1, hfits.1.2, hdeclared⟩, fun f hf hkey hadmits haccepts =>
    Function.declared_of_declares (hdeclares f hf ⟨⟨hkey, hadmits⟩, haccepts⟩)⟩

/-- What is the only one is so whatever comes first. -/
theorem Function.Sole.first {head : String} {count : Nat} {signature : Signature} {op : Builtin}
    (h : Function.Sole head count signature op) (first : Kind) : Function.SoleFirst head count first signature op := by
  obtain ⟨f, hf, hkey, hadmits⟩ := h.exists_mem
  exact ⟨⟨f, hf, hkey, hadmits, Function.declared_of_declares (h.declares f hf hkey hadmits)⟩,
    fun f hf hkey hadmits _ => Function.declared_of_declares (h.declares f hf hkey hadmits)⟩

/-! ## Choice -/

namespace HasCatalogue

theorem root (config : Config) (binding : Token) : HasCatalogue (Interpreter.root config binding).chain where
  builtins := OnlyBuiltins.root config binding true
  complete _ hf := ⟨_, List.mem_singleton_self _, List.mem_reverse.2 hf⟩

/-- With the catalogue visible and nothing else, every name offers what it has there. -/
theorem offers {chain : List Scope} (h : HasCatalogue chain) (head : String) : Offers chain head where
  builtins := h.builtins.of_functionsNamed
  complete f hf hkey := by
    obtain ⟨s, hs, hm⟩ := h.complete f hf
    exact List.mem_flatMap.2 ⟨s, hs, List.mem_filter.2 ⟨hm, beq_iff_eq.2 hkey⟩⟩

end HasCatalogue

namespace Offers

variable {chain : List Scope} {head : String} {count : Nat} {f : Function}

theorem mem_admitted (h : Offers chain head) (hf : f ∈ catalogue) (hkey : f.signature.key = Text.foldCase head)
    (ha : f.signature.admits count = true) : f ∈ admitted chain head count :=
  List.mem_filter.2 ⟨h.complete f hf hkey, ha⟩

theorem mem_catalogue (h : Offers chain head) (hf : f ∈ admitted chain head count) : f ∈ catalogue :=
  h.builtins f (RuleExpr.mem_admitted hf).1

/-- Where the catalogue has one function, it is there to choose from, and nothing else is. -/
theorem admitted_of_sole {signature : Signature} {op : Builtin} (h : Offers chain head)
    (hsole : Function.Sole head count signature op) :
    (∃ f, f ∈ admitted chain head count) ∧ ∀ f ∈ admitted chain head count, f.Declared signature op := by
  constructor
  · obtain ⟨f, hf, hkey, hadmits⟩ := hsole.exists_mem
    exact ⟨f, h.mem_admitted hf hkey hadmits⟩
  · intro f hf
    exact Function.declared_of_declares (hsole.declares f (h.mem_catalogue hf) (key_of_admitted hf)
      (RuleExpr.mem_admitted hf).2)

end Offers

section Choice

variable {chain : List Scope} {head : String} {children args : List Token} {f : Function}

/-- If a function accepts the children then one is resolved, as those of its name quote the same ones. -/
theorem Offers.exists_resolve (h : Offers chain head) (hf : f ∈ admitted chain head children.length)
    (ha : acceptsChildren chain f.signature children = .ok true) :
    ∃ g ∈ admitted chain head children.length, resolve chain head children = .ok (some g) := by
  have hjudged : ∀ g ∈ admitted chain head children.length, ∃ r, acceptsChildren chain g.signature children = .ok r :=
    fun g hg => exists_acceptsChildren ha (quotes_eq_of_admitted (h.mem_catalogue hg) (h.mem_catalogue hf) hg hf)
  obtain ⟨g, hg⟩ := exists_findM?_eq_some hjudged hf ha
  have hresolve := resolve_eq_some.2 hg
  exact ⟨g, (mem_admitted_of_resolve hresolve).1, hresolve⟩

/-- The only function to choose from is resolved if it accepts the children. -/
theorem resolve_of_sole {signature : Signature} {op : Builtin} (h : Offers chain head)
    (hsole : Function.Sole head children.length signature op)
    (ha : acceptsChildren chain signature children = .ok true) :
    ∃ f : Function, f.Declared signature op ∧ resolve chain head children = .ok (some f) := by
  obtain ⟨⟨f, hf⟩, hdeclared⟩ := h.admitted_of_sole hsole
  have haccepts : acceptsChildren chain f.signature children = .ok true := by
    rwa [(hdeclared f hf).acceptsChildren_eq]
  obtain ⟨g, hg, hresolve⟩ := h.exists_resolve hf haccepts
  exact ⟨g, hdeclared g hg, hresolve⟩

/-- If the only function to choose from does not accept the children, the block stays. -/
theorem resolve_of_sole_refused {signature : Signature} {op : Builtin} (h : Offers chain head)
    (hsole : Function.Sole head children.length signature op)
    (ha : acceptsChildren chain signature children = .ok false) : resolve chain head children = .ok none := by
  obtain ⟨⟨f, hf⟩, hdeclared⟩ := h.admitted_of_sole hsole
  rw [resolve_of_mem_admitted hf, findM?_eq_none_iff]
  intro g hg
  rw [(hdeclared g hg).acceptsChildren_eq, ha]

/-- If the look-ahead fails for the only function to choose from, so does the choice. -/
theorem resolve_of_sole_error {signature : Signature} {op : Builtin} {e : Error} (h : Offers chain head)
    (hsole : Function.Sole head children.length signature op)
    (he : acceptsChildren chain signature children = .error e) : resolve chain head children = .error e := by
  obtain ⟨⟨f, hf⟩, hdeclared⟩ := h.admitted_of_sole hsole
  obtain ⟨g, rest, hadmitted⟩ := List.exists_cons_of_ne_nil (List.ne_nil_of_mem hf)
  have hg := hdeclared g (hadmitted ▸ List.mem_cons_self)
  rw [resolve_of_mem_admitted hf, hadmitted]
  exact findM?_cons_of_error ((hg.acceptsChildren_eq _ _).trans he)

/-- If a function accepts the values then one that does is chosen for them. -/
theorem exists_redispatch_of_accepts (hf : f ∈ admitted chain head args.length)
    (ha : acceptsValues f.signature args = true) :
    ∃ g ∈ admitted chain head args.length, redispatch chain head args = .ok g ∧
      acceptsValues g.signature args = true := by
  have hsome : ((admitted chain head args.length).find? fun f => acceptsValues f.signature args).isSome = true :=
    List.find?_isSome.2 ⟨f, hf, ha⟩
  obtain ⟨g, hg⟩ := Option.isSome_iff_exists.1 hsome
  exact ⟨g, List.mem_of_find?_eq_some hg, redispatch_eq_ok.2 hg,
    List.find?_some (p := fun f : Function => acceptsValues f.signature args) hg⟩

end Choice

section Arguments

variable {signature : Signature} {k : Kind} {chain : List Scope} {children args : List Token}

/-- Where all parameters are of one kind, what that kind accepts is accepted. -/
theorem acceptsChildren_of_kind (hs : ∀ i, signature.parameterKind i = k)
    (h : ∀ t ∈ children, acceptsChild chain k t = .ok true) : acceptsChildren chain signature children = .ok true := by
  rw [acceptsChildren_iff]
  intro i t ht
  rw [hs]
  exact h t (List.mem_of_getElem? ht)

theorem acceptsValues_of_kind (hs : ∀ i, signature.parameterKind i = k) (h : ∀ a ∈ args, k.accepts a.kind = true) :
    acceptsValues signature args = true := by
  rw [acceptsValues_iff]
  intro i a ha
  rw [hs]
  exact .inr (h a (List.mem_of_getElem? ha))

theorem acceptsChild_any (chain : List Scope) (t : Token) : acceptsChild chain Kind.any t = .ok true := by
  cases t with
  | block => rfl
  | _ => exact congrArg Except.ok (Token.any_accepts_kind _)

theorem evaluateArgument_of_evaluatesAll (hq : signature.evaluatesAll = true) (ev : Evaluator) (i : Nat) (t : Token) :
    evaluateArgument ev signature i t = Action.within signature (ev t) := by
  rw [evaluateArgument, Signature.quotes_of_evaluatesAll hq, if_neg Bool.false_ne_true]

end Arguments

section Prepared

variable {ev : Evaluator} {c : Context} {s s' : Scope} {head : String} {children args : List Token} {f g : Function}

/-- Whichever function was resolved, it is one that accepts the values that is run, if there is one. -/
theorem prepare_of_values (hr : resolve (s :: c.parents) head children = .ok (some f))
    (ha : evaluateArguments ev f.signature 0 children c s = (.ok args, s))
    (hg : g ∈ admitted (s :: c.parents) head args.length) (hv : acceptsValues g.signature args = true) :
    ∃ g ∈ admitted (s :: c.parents) head args.length, acceptsValues g.signature args = true ∧
      prepare ev head children c s = (.ok (some ⟨g, args⟩), s) := by
  by_cases hf : acceptsValues f.signature args = true
  · have hm := (mem_admitted_of_resolve hr).1
    rw [← length_of_evaluateArguments ha] at hm
    refine ⟨f, hm, hf, ?_⟩
    rw [prepare_of_some hr, Action.bind_of_ok ha, if_pos hf]
    rfl
  · obtain ⟨g', hm, hg', hv'⟩ := exists_redispatch_of_accepts hg hv
    refine ⟨g', hm, hv', ?_⟩
    rw [prepare_of_some hr, Action.bind_of_ok ha, if_neg hf, Action.bind_of_ok (a := s :: c.parents) rfl, hg']
    rfl

/-- If there is only one function to choose from, it is run with the values if it accepts them. -/
theorem prepare_of_sole {signature : Signature} {op : Builtin} (h : Offers (s :: c.parents) head)
    (hsole : Function.Sole head children.length signature op)
    (hc : acceptsChildren (s :: c.parents) signature children = .ok true)
    (ha : ∀ f : Function, f.Declared signature op → evaluateArguments ev f.signature 0 children c s = (.ok args, s'))
    (hv : acceptsValues signature args = true) :
    ∃ f : Function, f.Declared signature op ∧ prepare ev head children c s = (.ok (some ⟨f, args⟩), s') := by
  obtain ⟨f, hf, hresolve⟩ := resolve_of_sole h hsole hc
  refine ⟨f, hf, ?_⟩
  rw [prepare_of_some hresolve, Action.bind_of_ok (ha f hf), if_pos ((hf.acceptsValues_eq args).trans hv)]
  rfl

/-- If it does not accept the values, there is none to run. -/
theorem prepare_of_sole_refused {signature : Signature} {op : Builtin} (h : Offers (s :: c.parents) head)
    (hsole : Function.Sole head children.length signature op)
    (hc : acceptsChildren (s :: c.parents) signature children = .ok true)
    (ha : ∀ f : Function, f.Declared signature op → evaluateArguments ev f.signature 0 children c s = (.ok args, s'))
    (hs : s'.functions = s.functions) (hv : acceptsValues signature args = false) :
    ∃ context expected found,
      prepare ev head children c s = (.error (.kindMismatch context expected found), s') := by
  obtain ⟨f, hf, hresolve⟩ := resolve_of_sole h hsole hc
  have hadmitted : admitted (s' :: c.parents) head args.length = admitted (s :: c.parents) head children.length := by
    rw [length_of_evaluateArguments (ha f hf), admitted_congr hs]
  obtain ⟨⟨g, hg⟩, hdeclared⟩ := h.admitted_of_sole hsole
  rw [← hadmitted] at hg hdeclared
  obtain ⟨g, -, expected, found, hredispatch⟩ :=
    redispatch_of_refused hg fun g hg => ((hdeclared g hg).acceptsValues_eq args).trans hv
  refine ⟨g.signature.render, expected, found, ?_⟩
  rw [prepare_of_some hresolve, Action.bind_of_ok (ha f hf), hf.acceptsValues_eq, hv, if_neg Bool.false_ne_true,
    Action.bind_of_ok (a := s' :: c.parents) rfl, hredispatch]
  rfl

/-- A function that gives back no trees gives what its body gives. -/
theorem Call.run_of_returns {call : Call} (h : call.function.signature.returns.quotes = false) :
    call.run ev c s = Action.within call.function.signature (call.function.body.run ev call.args) c s := by
  have hreturns (v : Token) : (if call.function.signature.returns.quotes && v.isBlock then ev v else pure v) =
      (pure v : Action Token) := by
    rw [h, Bool.false_and, if_neg Bool.false_ne_true]
  rw [Call.run]
  simp only [hreturns]
  show Action.bind _ _ c s = _
  rw [Action.bind]
  split
  · next hv => exact hv.symm
  · next he => exact he.symm

/-- A function whose body gives a value that is no block gives that value. -/
theorem Call.run_of_value {call : Call} {v : Token}
    (h : call.function.body.run ev call.args c s = (.ok v, s)) (hv : v.isBlock = false) :
    call.run ev c s = (.ok v, s) := by
  have hwithin : Action.within call.function.signature (call.function.body.run ev call.args) c s = (.ok v, s) := by
    rw [Action.within, h]
  rw [Call.run, Action.bind_of_ok hwithin, hv, Bool.and_false, if_neg Bool.false_ne_true]
  rfl

theorem evaluateBlock_of_prepare {call : Call} (hh : head.isEmpty = false)
    (h : prepare ev head children c s = (.ok (some call), s')) :
    evaluateBlock ev head children c s = call.run ev c s' := by
  rw [evaluateBlock, hh, if_neg Bool.false_ne_true, Action.bind_of_ok h]

theorem evaluateBlock_of_error {e : Error} (hh : head.isEmpty = false)
    (h : prepare ev head children c s = (.error e, s')) : evaluateBlock ev head children c s = (.error e, s') := by
  rw [evaluateBlock, hh, if_neg Bool.false_ne_true]
  exact Action.bind_of_error h

/-- A block without children that names no function is what its head spells. -/
theorem evaluateBlock_of_unnamed (hh : head.isEmpty = false)
    (h : functionsNamed (s :: c.parents) (Text.foldCase head) = []) :
    evaluateBlock ev head [] c s = (Token.infer head, s) := by
  rw [evaluateBlock, hh, if_neg Bool.false_ne_true, Action.bind_of_ok (prepare_of_none (resolve_of_unnamed h []))]
  rfl

end Prepared

/-! ## Calls of functions that evaluate their arguments -/

section Values

variable {ev : Evaluator} {c : Context} {s : Scope} {chain : List Scope} {head : String}
  {children args ts vs : List Token} {signature : Signature} {op : Builtin} {k first : Kind}

/-- A call could give what the function declares. -/
theorem acceptsChild_call (h : Offers chain head) (hh : head.isEmpty = false)
    (hsole : Function.SoleFirst head children.length first signature op) (hk : k.accepts signature.returns = true) :
    acceptsChild chain k (.block head children) = .ok true := by
  obtain ⟨f, hf, hkey, hadmits, hdeclared⟩ := hsole.exists_mem
  have hreturns : k.accepts f.signature.returns = true := hdeclared.returns ▸ hk
  obtain ⟨named, hnamed, hincludes⟩ := lookAhead_includes hh (h.mem_admitted hf hkey hadmits)
  rw [acceptsChild, hnamed]
  split
  · rfl
  · exact congrArg Except.ok (Kind.accepts_of_includes hincludes hreturns)

/-- Arguments that leave the scope as it is are evaluated one after the other. -/
theorem evaluateArguments_of_forall₂ (hq : signature.evaluatesAll = true)
    (h : List.Forall₂ (fun t v => ev t c s = (.ok v, s)) ts vs) (i : Nat) :
    evaluateArguments ev signature i ts c s = (.ok vs, s) := by
  induction h generalizing i with
  | nil => rfl
  | @cons t v ts vs ht _ ih =>
    have hfirst : evaluateArgument ev signature i t c s = (.ok v, s) := by
      rw [evaluateArgument_of_evaluatesAll hq, Action.within, ht]
    rw [evaluateArguments_cons, Action.bind_of_ok hfirst, Action.bind_of_ok (ih (i + 1))]
    rfl

/-- The only function to choose from gives what its body gives. -/
theorem evaluateBlock_of_sole {v : Token} (h : Offers (s :: c.parents) head) (hh : head.isEmpty = false)
    (hsole : Function.Sole head children.length signature op) (hq : signature.evaluatesAll = true)
    (hc : acceptsChildren (s :: c.parents) signature children = .ok true)
    (hargs : List.Forall₂ (fun t v => ev t c s = (.ok v, s)) children args)
    (hv : acceptsValues signature args = true) (hrun : op.run ev args c s = (.ok v, s)) (hb : v.isBlock = false) :
    evaluateBlock ev head children c s = (.ok v, s) := by
  obtain ⟨f, hf, hprepare⟩ := prepare_of_sole h hsole hc
    (fun f hf => evaluateArguments_of_forall₂ (hf.evaluatesAll_eq.trans hq) hargs 0) hv
  have hbody : f.body.run ev args c s = (.ok v, s) := by
    rw [hf.body]
    exact hrun
  rw [evaluateBlock_of_prepare hh hprepare]
  exact Call.run_of_value hbody hb

theorem accepts_of_acceptsValues {a : Token} {signature : Signature} (hq : signature.evaluatesAll = true)
    (h : acceptsValues signature (a :: args) = true) : (signature.parameterKind 0).accepts a.kind = true := by
  refine (acceptsValues_iff.1 h 0 a rfl).resolve_left fun hquotes => ?_
  rw [Signature.quotes_of_evaluatesAll hq] at hquotes
  cases hquotes

/-- **Whichever overload is resolved, it is the one for the kind of the first value that is run.** -/
theorem evaluateBlock_of_first {a : Token} (h : Offers (s :: c.parents) head) (hh : head.isEmpty = false)
    (hsole : Function.SoleFirst head children.length a.kind signature op) (hq : signature.evaluatesAll = true)
    (hc : acceptsChildren (s :: c.parents) signature children = .ok true)
    (hargs : List.Forall₂ (fun t v => ev t c s = (.ok v, s)) children (a :: args))
    (hv : acceptsValues signature (a :: args) = true) : ∃ f : Function, f.Declared signature op ∧
      evaluateBlock ev head children c s = Call.run ev ⟨f, a :: args⟩ c s := by
  obtain ⟨g, hg, hkey, hadmits, hdeclared⟩ := hsole.exists_mem
  have hq' {f : Function} (hf : f ∈ admitted (s :: c.parents) head children.length) :
      f.signature.evaluatesAll = true := by
    have hkeys : g.signature.key = f.signature.key := hkey.trans (key_of_admitted hf).symm
    exact Signature.evaluatesAll_of_quotesAlike (quotesAlike_of_mem_catalogue hg (h.mem_catalogue hf) hkeys) hadmits
      (mem_admitted hf).2 (hdeclared.evaluatesAll_eq.trans hq)
  obtain ⟨f, hf, hresolve⟩ := h.exists_resolve (h.mem_admitted hg hkey hadmits)
    ((hdeclared.acceptsChildren_eq _ _).trans hc)
  have hlength := hargs.length_eq
  obtain ⟨f, hf, hvalues, hprepare⟩ := prepare_of_values hresolve (evaluateArguments_of_forall₂ (hq' hf) hargs 0)
    (hlength ▸ h.mem_admitted hg hkey hadmits) ((hdeclared.acceptsValues_eq _).trans hv)
  rw [← hlength] at hf
  refine ⟨f, hsole.declared f (h.mem_catalogue hf) (key_of_admitted hf) (mem_admitted hf).2 ?_,
    evaluateBlock_of_prepare hh hprepare⟩
  exact accepts_of_acceptsValues (hq' hf) hvalues

/-- If the body leaves the scope as it is, so does the call, and its failure is told as one of the call. -/
theorem evaluateBlock_of_first_steady {a : Token} {r : Except Error Token} (h : Offers (s :: c.parents) head)
    (hh : head.isEmpty = false) (hsole : Function.SoleFirst head children.length a.kind signature op)
    (hq : signature.evaluatesAll = true) (hreturns : signature.returns.quotes = false)
    (hc : acceptsChildren (s :: c.parents) signature children = .ok true)
    (hargs : List.Forall₂ (fun t v => ev t c s = (.ok v, s)) children (a :: args))
    (hv : acceptsValues signature (a :: args) = true) (hrun : op.run ev (a :: args) c s = (r, s)) :
    ∃ text, evaluateBlock ev head children c s = (r.mapError (.call text), s) := by
  obtain ⟨f, hf, hblock⟩ := evaluateBlock_of_first h hh hsole hq hc hargs hv
  refine ⟨f.signature.render, ?_⟩
  rw [hblock, Call.run_of_returns (hf.returns ▸ hreturns), hf.body]
  exact Action.within_steady f.signature hrun

end Values

/-! ## Calls of functions that take trees -/

section Trees

variable {ev : Evaluator} {c : Context} {s : Scope} {chain : List Scope} {head : String} {children : List Token}
  {signature : Signature} {op : Builtin} {f : Function}

/-- Arguments that are quoted are passed as they are. -/
theorem evaluateArguments_of_quotes (hq : ∀ i, signature.quotes i = true) (i : Nat) (ts : List Token) :
    evaluateArguments ev signature i ts c s = (.ok ts, s) := by
  induction ts generalizing i with
  | nil => rfl
  | cons t ts ih =>
    have hfirst : evaluateArgument ev signature i t c s = (.ok t, s) := by
      rw [evaluateArgument, hq, if_pos rfl]
      rfl
    rw [evaluateArguments_cons, Action.bind_of_ok hfirst, Action.bind_of_ok (ih (i + 1))]
    rfl

/-- What is quoted is not validated. -/
theorem validateArguments_of_quotes (hq : ∀ i, signature.quotes i = true) (i : Nat) (ts : List Token) :
    validateArguments chain signature i ts = .ok () := by
  induction ts generalizing i with
  | nil => rfl
  | cons t ts ih => rw [validateArguments, hq, if_pos rfl, ih]

theorem Function.Declared.quotes_of_any (hf : f.Declared signature op) (hs : ∀ i, signature.parameterKind i = Kind.any)
    (i : Nat) : f.signature.quotes i = true := by
  rw [hf.quotes_eq, Signature.quotes, hs]
  rfl

/-- The only function to choose from is resolved whatever the arguments are, if it takes any. -/
theorem resolve_of_any (h : Offers chain head) (hsole : Function.Sole head children.length signature op)
    (hs : ∀ i, signature.parameterKind i = Kind.any) : ∃ f ∈ catalogue, f.signature.key = Text.foldCase head ∧
      f.Declared signature op ∧ resolve chain head children = .ok (some f) := by
  obtain ⟨f, hf, hresolve⟩ := resolve_of_sole h hsole (acceptsChildren_of_kind hs fun t _ => acceptsChild_any chain t)
  have hm := (mem_admitted_of_resolve hresolve).1
  exact ⟨f, h.mem_catalogue hm, key_of_admitted hm, hf, hresolve⟩

/-- **A function that takes any trees gives what its body makes of them**, a failure within the call. -/
theorem evaluateBlock_of_any (h : Offers (s :: c.parents) head) (hh : head.isEmpty = false)
    (hsole : Function.Sole head children.length signature op) (hs : ∀ i, signature.parameterKind i = Kind.any)
    (hreturns : signature.returns.quotes = false) : ∃ f ∈ catalogue, f.signature.key = Text.foldCase head ∧
      evaluateBlock ev head children c s = Action.within f.signature (op.run ev children) c s := by
  obtain ⟨f, hm, hkey, hf, hresolve⟩ := resolve_of_any h hsole hs
  have hvalues : acceptsValues f.signature children = true :=
    acceptsValues_iff.2 fun i _ _ => .inl (hf.quotes_of_any hs i)
  have hprepare : prepare ev head children c s = (.ok (some ⟨f, children⟩), s) := by
    rw [prepare_of_some hresolve, Action.bind_of_ok (evaluateArguments_of_quotes (hf.quotes_of_any hs) 0 children),
      if_pos hvalues]
    rfl
  refine ⟨f, hm, hkey, ?_⟩
  rw [evaluateBlock_of_prepare hh hprepare, Call.run_of_returns (hf.returns ▸ hreturns), hf.body]
  rfl

/-- There is nothing to validate in a call of a function that takes any trees. -/
theorem validate_of_any (h : Offers chain head) (hh : head.isEmpty = false)
    (hsole : Function.Sole head children.length signature op) (hs : ∀ i, signature.parameterKind i = Kind.any) :
    validate chain (.block head children) = .ok () := by
  obtain ⟨f, -, -, hf, hresolve⟩ := resolve_of_any h hsole hs
  simp only [validate, hh, Bool.false_eq_true, if_false, hresolve, validateArguments_of_quotes (hf.quotes_of_any hs)]

end Trees

end RuleExpr
