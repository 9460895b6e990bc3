import RuleExpr.Proofs.Evaluation.LookAhead

/-!
# The choice before and after the evaluation of arguments

Where no function that admits the arguments of a call quotes one of them, the function that is run is the one that a
call with the values in place of the arguments resolves to (`prepare_coherent`): the first whose parameters accept the
kinds of the values. A function that the look-ahead passes over would not have accepted the values, since the
look-ahead names their kinds (`acceptsChild_of_judged`); and a function chosen anew is chosen for the values.
-/

namespace RuleExpr

/-- Whether every parameter accepts the kind of its argument. -/
def acceptsKinds (signature : Signature) (args : List Token) : Bool :=
  args.zipIdx.all fun (arg, i) => (signature.parameterKind i).accepts arg.kind

/-- The value that a child could have for the look-ahead. -/
def Judged (chain : List Scope) (child v : Token) : Prop :=
  match child with
  | .block head children => ∃ k, lookAhead chain head children = .ok k ∧ v.Fits k
  | atom => v = atom

/-! ## Accepted values -/

section Accepted

variable {chain : List Scope} {signature : Signature} {children args : List Token} {v : Token} {k : Kind}

theorem acceptsKinds_iff : acceptsKinds signature args = true ↔
    ∀ i v, args[i]? = some v → (signature.parameterKind i).accepts v.kind = true := by
  rw [acceptsKinds, List.all_eq_true]
  exact forall_mem_zipIdx

/-- A parameter that does not quote accepts no block. -/
theorem not_isBlock_of_accepts (hq : k.quotes = false) (h : k.accepts v.kind = true) : v.isBlock = false := by
  cases v with
  | block head children => exact (Bool.eq_false_iff.1 hq h).elim
  | _ => rfl

/-- A parameter that accepts the value accepts the child for the look-ahead. -/
theorem acceptsChild_of_judged {t : Token} (hj : Judged chain t v) (hv : v.isBlock = false)
    (h : k.accepts v.kind = true) : acceptsChild chain k t = .ok true := by
  cases t with
  | block head children =>
    obtain ⟨named, hnamed, hfits⟩ := hj
    have hk : named.includes v.kind = true := hfits.resolve_left (Bool.eq_false_iff.1 hv)
    rw [acceptsChild, hnamed]
    split
    · rfl
    · exact congrArg Except.ok (Kind.accepts_of_includes hk h)
  | _ =>
    cases hj
    exact congrArg Except.ok h

/-- For values that are no blocks, it is their kinds that matter. -/
theorem acceptsChildren_eq_acceptsKinds (hv : ∀ v ∈ args, v.isBlock = false) :
    acceptsChildren chain signature args = .ok (acceptsKinds signature args) := by
  refine allM_eq_ok (forall_mem_zipIdx.2 fun i v hi => ?_)
  have := hv v (List.mem_of_getElem? hi)
  cases v with
  | block => cases this
  | _ => rfl

theorem acceptsValues_eq_acceptsKinds (hq : ∀ i < args.length, signature.quotes i = false) :
    acceptsValues signature args = acceptsKinds signature args := by
  rw [Bool.eq_iff_iff, acceptsValues_iff, acceptsKinds_iff]
  refine forall_congr' fun i => forall_congr' fun v => imp_congr_right fun hi => ?_
  rw [hq i (List.getElem?_eq_some_iff.1 hi).1]
  simp only [Bool.false_eq_true, false_or]

/-- Where nothing is quoted, a block among the values is not accepted. -/
theorem not_isBlock_of_acceptsKinds (hq : ∀ i < args.length, signature.quotes i = false)
    (h : acceptsKinds signature args = true) : ∀ v ∈ args, v.isBlock = false := by
  intro v hv
  obtain ⟨i, hi⟩ := List.getElem?_of_mem hv
  exact not_isBlock_of_accepts (hq i (List.getElem?_eq_some_iff.1 hi).1) (acceptsKinds_iff.1 h i v hi)

/-- What accepts the values accepts the children for the look-ahead. -/
theorem acceptsChildren_of_judged (hl : args.length = children.length)
    (hj : ∀ (i : Nat) (t v : Token), children[i]? = some t → args[i]? = some v → Judged chain t v)
    (hv : ∀ v ∈ args, v.isBlock = false) (h : acceptsKinds signature args = true) :
    acceptsChildren chain signature children = .ok true := by
  rw [acceptsChildren_iff]
  intro i t ht
  have hi : i < args.length := hl ▸ (List.getElem?_eq_some_iff.1 ht).1
  have ha := List.getElem?_eq_getElem hi
  exact acceptsChild_of_judged (hj i t _ ht ha) (hv _ (List.getElem_mem hi)) (acceptsKinds_iff.1 h i _ ha)

end Accepted

/-- The first for which a weaker test holds is also the first for which a stronger one does, if that holds of it. -/
theorem find?_of_imp {α : Type} {p q : α → Bool} {a : α} {l : List α} (h : l.find? p = some a) (ha : q a = true)
    (hi : ∀ b ∈ l, q b = true → p b = true) : l.find? q = some a := by
  induction l with
  | nil => cases h
  | cons b l ih =>
    obtain ⟨hb, hl⟩ := List.forall_mem_cons.1 hi
    rw [List.find?_cons] at h ⊢
    cases hp : p b with
    | true =>
      rw [hp] at h
      cases h
      rw [ha]
    | false =>
      have hq : q b = false := Bool.eq_false_iff.2 fun hq => Bool.eq_false_iff.1 hp (hb hq)
      rw [hp] at h
      rw [hq]
      exact ih h hl

/-- So it is where the weaker test could have failed for others, which come after. -/
theorem find?_of_findM? {ε α : Type} {f : α → Except ε Bool} {q : α → Bool} {a : α} {l : List α}
    (h : l.findM? f = .ok (some a)) (ha : q a = true) (hi : ∀ b ∈ l, q b = true → f b = .ok true) :
    l.find? q = some a := by
  obtain ⟨-, before, after, rfl, hbefore⟩ := findM?_eq_some_iff.1 h
  refine List.find?_eq_some_iff_append.2 ⟨ha, before, after, rfl, fun b hb => ?_⟩
  rw [Bool.not_eq_true', Bool.eq_false_iff]
  intro hq
  have htrue := hi b (List.mem_append_left _ hb) hq
  rw [hbefore b hb] at htrue
  cases htrue

/-! ## Evaluated arguments -/

section Arguments

variable {depth : Nat} {c : Context} {s s' : Scope} {signature : Signature}

theorem judged_congr {parents : List Scope} {t v : Token} (hs : s'.functions = s.functions)
    (h : Judged (s' :: parents) t v) : Judged (s :: parents) t v := by
  cases t with
  | block head children => rwa [Judged, lookAhead_congr hs] at h
  | _ => exact h

/-- The look-ahead judges every token rightly. -/
theorem judged_of_evaluate {t v : Token} (hb : OnlyBuiltins (s :: c.parents)) (h : evaluate depth t c s = (.ok v, s')) :
    Judged (s :: c.parents) t v := by
  cases t with
  | block head children => exact fits_evaluate hb h
  | _ =>
    rw [evaluate_of_not_block rfl] at h
    cases h
    rfl

/-- Where nothing is quoted, the arguments are the values of the children. -/
theorem all_of_evaluateArguments {ev : Evaluator} {ts vs : List Token} {i : Nat}
    (hq : ∀ j < ts.length, signature.quotes (i + j) = false)
    (h : evaluateArguments ev signature i ts c s = (.ok vs, s')) : ev.all ts c s = (.ok vs, s') := by
  induction ts generalizing vs i s s' with
  | nil => exact h
  | cons t ts ih =>
    rw [evaluateArguments_cons] at h
    obtain ⟨v, s₁, hv, h₁⟩ := Action.bind_eq_ok h
    obtain ⟨us, s₂, hu, h₂⟩ := Action.bind_eq_ok h₁
    have hi : signature.quotes i = false := hq 0 (Nat.zero_lt_succ _)
    have hts : ∀ j < ts.length, signature.quotes (i + 1 + j) = false := by
      intro j hj
      rw [Nat.add_right_comm]
      exact hq (j + 1) (Nat.succ_lt_succ hj)
    rw [evaluateArgument, hi, if_neg Bool.false_ne_true] at hv
    rw [Evaluator.all, Action.bind_of_ok (Action.within_eq_ok hv), Action.bind_of_ok (ih hts hu)]
    exact h₂

/-- The functions being the same throughout, all values are among those that the look-ahead sees at the beginning. -/
theorem judged_of_all {ts vs : List Token} (hb : OnlyBuiltins (s :: c.parents))
    (h : (evaluate depth).all ts c s = (.ok vs, s')) (i : Nat) {t v : Token} (ht : ts[i]? = some t)
    (hv : vs[i]? = some v) : Judged (s :: c.parents) t v := by
  induction ts generalizing vs s s' i with
  | nil => cases ht
  | cons u ts ih =>
    obtain ⟨w, s₁, hw, h₁⟩ := Action.bind_eq_ok h
    obtain ⟨ws, s₂, hws, h₂⟩ := Action.bind_eq_ok h₁
    cases h₂
    have hs := (keeps_evaluate depth u).eq_of_run hb hw
    cases i with
    | zero =>
      cases ht
      cases hv
      exact judged_of_evaluate hb hw
    | succ i => exact judged_congr hs (ih (hb.of_functions_eq hs) hws i ht hv)

end Arguments

/-! ## Coherence -/

section Coherence

variable {depth : Nat} {head : String} {children : List Token} {c : Context} {s s' : Scope} {call : Call}

/-- The function of a call is the first that accepts the kinds of the values, where nothing is quoted. -/
theorem find?_acceptsKinds_of_prepare (hb : OnlyBuiltins (s :: c.parents))
    (hq : ∀ f ∈ admitted (s :: c.parents) head children.length, ∀ i < children.length, f.signature.quotes i = false)
    (h : prepare (evaluate depth) head children c s = (.ok (some call), s')) :
    (evaluate depth).all children c s = (.ok call.args, s') ∧ (∀ v ∈ call.args, v.isBlock = false) ∧
      (admitted (s :: c.parents) head children.length).find? (fun f => acceptsKinds f.signature call.args) =
        some call.function := by
  obtain ⟨f, hf, ha, hcall⟩ := prepare_eq_some h
  have hlen := length_of_evaluateArguments ha
  rw [← hlen] at hq
  have hresolved := resolve_eq_some.1 hf
  have hfm := (mem_admitted_of_resolve hf).1
  have hall := all_of_evaluateArguments (fun j hj => (Nat.zero_add j).symm ▸ hq f (hlen ▸ hfm) j (hlen ▸ hj)) ha
  rw [← hlen] at hresolved hfm ⊢
  obtain ⟨hv, rfl⟩ | ⟨-, hg⟩ := hcall
  · -- whatever was passed over beforehand would not have accepted the values either
    rw [acceptsValues_eq_acceptsKinds (hq _ hfm)] at hv
    have hblock := not_isBlock_of_acceptsKinds (hq _ hfm) hv
    refine ⟨hall, hblock, find?_of_findM? hresolved hv fun g hg hk => ?_⟩
    exact acceptsChildren_of_judged hlen (fun i t v => judged_of_all hb hall i) hblock hk
  · have hs := (keeps_evaluateArguments (keeps_evaluate depth) 0 children).eq_of_run hb ha
    have hfind := redispatch_eq_ok.1 hg
    rw [admitted_congr hs] at hfind
    have hgm := List.mem_of_find?_eq_some hfind
    have hv := List.find?_some (p := fun g : Function => acceptsValues g.signature call.args) hfind
    rw [acceptsValues_eq_acceptsKinds (hq _ hgm)] at hv
    refine ⟨hall, not_isBlock_of_acceptsKinds (hq _ hgm) hv, find?_of_imp hfind hv fun g hg hk => ?_⟩
    rwa [acceptsValues_eq_acceptsKinds (hq g hg)]

/-- **Where nothing is quoted, the function that is run is the one that a call with the values resolves to.** It is the
first visible function with the name that admits the arguments and accepts their kinds. -/
theorem prepare_coherent (hb : OnlyBuiltins (s :: c.parents))
    (hq : ∀ f ∈ functionsNamed (s :: c.parents) (Text.foldCase head), f.signature.admits children.length = true →
      ∀ i < children.length, f.signature.quotes i = false)
    (h : prepare (evaluate depth) head children c s = (.ok (some call), s')) :
    (evaluate depth).all children c s = (.ok call.args, s') ∧
      resolve (s :: c.parents) head call.args = .ok (some call.function) ∧
      resolve (s' :: c.parents) head call.args = .ok (some call.function) ∧
      (functionsNamed (s :: c.parents) (Text.foldCase head)).find? (fun f =>
        f.signature.admits call.args.length && acceptsKinds f.signature call.args) = some call.function := by
  obtain ⟨hall, hblock, hfind⟩ := find?_acceptsKinds_of_prepare hb
    (fun f hf => hq f (mem_admitted hf).1 (mem_admitted hf).2) h
  obtain ⟨f, -, ha, -⟩ := prepare_eq_some h
  have hs := (keeps_evaluateArguments (keeps_evaluate depth) 0 children).eq_of_run hb ha
  have hr : resolve (s :: c.parents) head call.args = .ok (some call.function) := by
    rw [resolve_eq_some, length_of_evaluateArguments ha, findM?_eq_ok fun f _ => acceptsChildren_eq_acceptsKinds hblock]
    exact congrArg Except.ok hfind
  refine ⟨hall, hr, (resolve_congr hs).trans hr, ?_⟩
  rw [length_of_evaluateArguments ha]
  simpa only [admitted, List.find?_filter, Bool.decide_and, Bool.decide_eq_true] using hfind

/-- The look-ahead chooses the overload for strings, which the values do not fit. -/
theorem prepare_coherent_sum :
    let s := sumScope
    let children := [.block "." [.string "X"], .decimal 2]
    let sum : Function := ⟨⟨"+", [.decimal, .decimal], true, .decimal, "Sum of the arguments", "(+ 1 2 3)"⟩,
      .builtin (.arithmetic .add)⟩
    OnlyBuiltins [s] ∧
      (∀ f ∈ functionsNamed [s] (Text.foldCase "+"), f.signature.admits children.length = true →
        ∀ i < children.length, f.signature.quotes i = false) ∧
      prepare (evaluate 2) "+" children ⟨{}, []⟩ s = (.ok (some ⟨sum, [.decimal 1, .decimal 2]⟩), s) ∧
      resolve [s] "+" [.decimal 1, .decimal 2] = .ok (some sum) := by
  intro s children sum
  have hb : OnlyBuiltins [s] := onlyBuiltins_sumScope
  have hq : ∀ f ∈ functionsNamed [s] (Text.foldCase "+"), f.signature.admits children.length = true →
      ∀ i < children.length, f.signature.quotes i = false := by decide +kernel
  have hp : prepare (evaluate 2) "+" children ⟨{}, []⟩ s = (.ok (some ⟨sum, [.decimal 1, .decimal 2]⟩), s) := by cbv
  exact ⟨hb, hq, hp, (prepare_coherent hb hq hp).2.1⟩

end Coherence

end RuleExpr
